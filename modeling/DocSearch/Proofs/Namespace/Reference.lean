import DocSearch.Index.Lookup
import DocSearch.Proofs.Namespace.Spelling

/- References that stand in a context. What is left of a namespace when its outer components are cut
off means, where these stand in the context, what the whole namespace means. -/
namespace DocSearch

def Kind.depth : Kind → Nat
  | .conf => 0
  | .section => 1
  | .setting => 2
  | .value => 3

namespace Namespace

def SameAt (a b : Namespace) : Kind → Prop
  | .conf => a.conf = b.conf
  | .section => a.sections = b.sections
  | .setting => a.setting = b.setting
  | .value => a.value = b.value

/-- The components of a kind and of all kinds deeper than it. -/
def onward (ns : Namespace) : Kind → Namespace
  | .conf => ns
  | .section => { ns with conf := none }
  | .setting => { empty with setting := ns.setting, value := ns.value }
  | .value => { empty with value := ns.value }

/-- The two have the same components of all kinds above one. -/
def AgreeAbove (kind : Kind) (a b : Namespace) : Prop :=
  ∀ outer : Kind, outer.depth < kind.depth → a.SameAt b outer

variable {ns context : Namespace} {kind : Kind}

theorem WellFormed.onward (formed : ns.WellFormed) (kind : Kind) : (ns.onward kind).WellFormed := by
  have unnamed : IsName none := by simp [IsName]
  have outside : ∀ name ∈ ([] : List String), isWord name.toList = true := by simp
  cases kind with
  | conf => exact formed
  | «section» => exact ⟨unnamed, formed.sections, formed.few, formed.setting, formed.value⟩
  | setting => exact ⟨unnamed, outside, Nat.zero_le _, formed.setting, formed.value⟩
  | value => exact ⟨unnamed, outside, Nat.zero_le _, unnamed, formed.value⟩

theorem head?_populated_onward (present : ns.has kind = true) :
    (ns.onward kind).populated.head? = some kind := by
  cases kind <;> simp_all [populated, Kind.all, onward, has, empty]

theorem relativeTo_onward (present : ns.has kind = true) (agree : AgreeAbove kind context ns) :
    (ns.onward kind).relativeTo context = ns := by
  rw [relativeTo, head?_populated_onward present]
  cases kind with
  | conf => rfl
  | «section» =>
    have conf : context.conf = ns.conf := agree .conf (by decide)
    simp [onward, conf]
  | setting =>
    have conf : context.conf = ns.conf := agree .conf (by decide)
    have sections : context.sections = ns.sections := agree .section (by decide)
    simp [onward, conf, sections]
  | value =>
    have conf : context.conf = ns.conf := agree .conf (by decide)
    have sections : context.sections = ns.sections := agree .section (by decide)
    have setting : context.setting = ns.setting := agree .setting (by decide)
    simp [onward, conf, sections, setting]

theorem WellFormed.parse?_text_onward (formed : ns.WellFormed)
    (whole : ns.conf.isSome = true → ns.sections ≠ [] ∨ ns.setting.isSome = true) (kind : Kind) :
    parse? (ns.onward kind).text = some (ns.onward kind) := by
  apply (formed.onward kind).parse?_text
  cases kind with
  | conf => exact whole
  | «section» | setting | value =>
    intro present
    cases present

end Namespace

namespace SearchIndex
variable {t target : String} {ns context : Namespace} {kind : Kind}

theorem resolveConf?_absolute (index : SearchIndex) (read : Namespace.parse? target = some ns) :
    index.resolveConf? target none none = some (ns, index.confObjects ns) := by
  simp [resolveConf?, readReference?, read]

theorem resolveConf?_relative (index : SearchIndex) (read : Namespace.parse? target = some ns)
    (context : Namespace) : index.resolveConf? target none (some context) =
      some (ns.relativeTo context, index.confObjects (ns.relativeTo context)) := by
  simp [resolveConf?, readReference?, read]

/-- The components of a namespace from any of its kinds on, in a context that agrees with it above
this kind, mean the namespace and the objects that its whole text means. -/
theorem resolveConf?_onward (index : SearchIndex) (parsed : Namespace.parse? t = some ns)
    (whole : ns.conf.isSome = true → ns.sections ≠ [] ∨ ns.setting.isSome = true)
    (present : ns.has kind = true) (agree : Namespace.AgreeAbove kind context ns) :
    index.resolveConf? (ns.onward kind).text none (some context) =
        index.resolveConf? ns.text none none ∧
      index.resolveConf? ns.text none none = some (ns, index.confObjects ns) := by
  have formed := Namespace.parse?_wellFormed parsed
  have absolute := index.resolveConf?_absolute (formed.parse?_text whole)
  have relative := index.resolveConf?_relative (formed.parse?_text_onward whole kind) context
  rw [Namespace.relativeTo_onward present agree] at relative
  exact ⟨relative.trans absolute.symm, absolute⟩

theorem resolveConf?_onward_setting :
    let ns : Namespace := ⟨some "flow", ["a", "b c"], some "d", some "e"⟩
    let context : Namespace := ⟨some "flow", ["a", "b c"], some "other", none⟩
    let index : SearchIndex := ⟨[], none, [], .empty, none, none, none, none, none, .empty⟩
    Namespace.parse? "flow[a][b c]d = e" = some ns ∧ ns.has .setting = true ∧
      Namespace.AgreeAbove .setting context ns ∧ (ns.onward .setting).text = "d=e" ∧
        index.resolveConf? "d=e" none (some context) = some (ns, index.confObjects ns) := by
  intro ns context index
  have parsed : Namespace.parse? "flow[a][b c]d = e" = some ns := by decide +kernel
  have agree : Namespace.AgreeAbove .setting context ns := by
    intro outer above
    cases outer with
    | conf | «section» => rfl
    | setting | value => exact absurd above (by decide)
  have cut : (ns.onward .setting).text = "d=e" := by decide +kernel
  have present : ns.has .setting = true := rfl
  obtain ⟨relative, absolute⟩ :=
    resolveConf?_onward index parsed (fun _ => Or.inr rfl) present agree
  exact ⟨parsed, present, agree, cut, cut ▸ relative.trans absolute⟩

end SearchIndex
end DocSearch
