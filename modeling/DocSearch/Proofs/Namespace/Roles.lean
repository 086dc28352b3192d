import DocSearch.Proofs.Namespace.Grammar
import DocSearch.Proofs.Namespace.Overlay

/- References with a role. A target of one component is then that component as it is written, with
all marks and blanks, so that it means what it means without the role only where it is a bare
word. -/
namespace DocSearch

namespace Namespace
variable {a b ns : Namespace} {kind : Kind} {target : String}

theorem single_populated (filled : target ≠ "") : (single kind target).populated = [kind] := by
  have present : present? target = some target := by simp [present?, filled]
  cases kind <;> (rw [single, present]; rfl)

theorem ne_empty_of_alone (parsed : parse? target = some ns) (alone : ns.populated = [kind]) :
    target ≠ "" := by
  rintro rfl
  have nothing : parse? "" = some empty := by decide
  rw [nothing, Option.some.injEq] at parsed
  subst parsed
  cases alone

theorem has_of_populated (alone : ns.populated = [kind]) (other : Kind) :
    ns.has other = true ↔ other = kind := by
  rw [← mem_populated, alone, List.mem_singleton]

theorem eq_of_alone (aloneA : a.populated = [kind]) (aloneB : b.populated = [kind])
    (same : a.SameAt b kind) : a = b := by
  apply eq_of_sameAt
  intro other
  by_cases isKind : other = kind
  · exact isKind ▸ same
  · have without : a.has other = false :=
      Bool.eq_false_iff.2 fun present => isKind ((has_of_populated aloneA other).1 present)
    have alike : b.has other = false :=
      Bool.eq_false_iff.2 fun present => isKind ((has_of_populated aloneB other).1 present)
    exact sameAt_of_absent without alike

def inContext (reference : Namespace) (context : Option Namespace) : Namespace :=
  (context.map reference.relativeTo).getD reference

theorem inContext_sameAt (present : ns.has kind = true) (context : Option Namespace) :
    (ns.inContext context).SameAt ns kind := by
  cases context with
  | none => exact SameAt.refl ns kind
  | some base => exact relativeTo_of_covers (covers_of_has present)

theorem inContext_injective {context : Option Namespace} (aloneA : a.populated = [kind])
    (aloneB : b.populated = [kind]) (same : a.inContext context = b.inContext context) : a = b := by
  have ofA := inContext_sameAt ((has_of_populated aloneA kind).2 rfl) context
  have ofB := inContext_sameAt ((has_of_populated aloneB kind).2 rfl) context
  rw [same] at ofA
  exact eq_of_alone aloneA aloneB (ofA.symm.trans ofB)

theorem parse?_word (word : isWord target.toList = true) :
    parse? target = some { empty with setting := some target } := by
  have read := Parts.parse?_text ⟨.nothing, some ⟨target, isWord_iff.1 word⟩, none⟩
  have text : Parts.text ⟨.nothing, some ⟨target, isWord_iff.1 word⟩, none⟩ = target := by
    simp [Parts.text, Parts.front, Head.spelled, spelled, nameOf]
  rw [text] at read
  exact read

theorem value_length_lt {value : String} (parsed : parse? target = some ns)
    (given : ns.value = some value) : value.length < target.length := by
  obtain ⟨parts, rfl, rfl⟩ := exists_parts parsed
  obtain ⟨assignment, assigned, present⟩ := Option.bind_eq_some_iff.1 given
  have same : String.ofList assignment.value = value := by
    unfold present? at present
    split at present
    · cases present
    · exact Option.some.inj present
  rw [← same, ← String.length_toList, ← String.length_toList, Parts.toList_text_some assigned]
  simp
  omega

theorem parse?_single_iff (filled : target ≠ "") :
    parse? target = some (single kind target) ↔ kind = .setting ∧ isWord target.toList = true := by
  have present : present? target = some target := by simp [present?, filled]
  constructor
  · intro parsed
    have formed := parse?_wellFormed parsed
    cases kind <;> simp only [single, present] at parsed formed
    case conf =>
      -- The name of a file is a word, which would be read as a setting.
      have word := formed.conf target rfl
      rw [parse?_word word] at parsed
      simp [empty] at parsed
    case «section» =>
      have word := formed.sections target (by simp)
      rw [parse?_word word] at parsed
      simp [empty] at parsed
    case setting => exact ⟨rfl, formed.setting target rfl⟩
    case value => exact absurd (value_length_lt parsed rfl) (Nat.lt_irrefl _)
  · rintro ⟨rfl, word⟩
    rw [parse?_word word, single, present]

end Namespace

namespace SearchIndex
variable {target : String} {ns : Namespace} {kind : Kind}

theorem resolveConf?_read (index : SearchIndex) {role : Option Kind} {reference : Namespace}
    (read : readReference? target role = some reference) (context : Option Namespace) :
    index.resolveConf? target role context =
      some (reference.inContext context, index.confObjects (reference.inContext context)) := by
  simp [resolveConf?, read, Namespace.inContext]

/-- With the role of its one component, a target means that component as it is written. It means
what it means without the role exactly if it is the bare word of a setting. -/
theorem resolveConf?_role_iff (index : SearchIndex) (context : Option Namespace)
    (parsed : Namespace.parse? target = some ns) (alone : ns.populated = [kind]) :
    let asWritten := (Namespace.single kind target).inContext context
    index.resolveConf? target (some kind) context = some (asWritten, index.confObjects asWritten) ∧
      index.resolveConf? target none context =
        some (ns.inContext context, index.confObjects (ns.inContext context)) ∧
      (index.resolveConf? target (some kind) context = index.resolveConf? target none context ↔
        kind = .setting ∧ Namespace.isWord target.toList = true) := by
  intro asWritten
  have filled := Namespace.ne_empty_of_alone parsed alone
  have withRole : readReference? target (some kind) = some (Namespace.single kind target) := by
    simp [readReference?, parsed, alone]
  have withoutRole : readReference? target none = some ns := by simp [readReference?, parsed]
  have meant := index.resolveConf?_read withRole context
  have plain := index.resolveConf?_read withoutRole context
  refine ⟨meant, plain, ?_⟩
  rw [meant, plain, ← Namespace.parse?_single_iff filled, parsed, Option.some.injEq,
    Option.some.injEq, Prod.mk.injEq]
  constructor
  · rintro ⟨same, _⟩
    exact (Namespace.inContext_injective (Namespace.single_populated filled) alone same).symm
  · rintro rfl
    exact ⟨rfl, rfl⟩

theorem resolveConf?_role_iff_script :
    let ns : Namespace := ⟨none, [], some "script", none⟩
    let context : Namespace := ⟨some "flow.cylc", ["runtime"], none, none⟩
    let index : SearchIndex := ⟨[], none, [], .empty, none, none, none, none, none, .empty⟩
    Namespace.parse? "script" = some ns ∧ ns.populated = [.setting] ∧
      index.resolveConf? "script" (some .setting) (some context) =
        index.resolveConf? "script" none (some context) := by
  intro ns context index
  have parsed : Namespace.parse? "script" = some ns := by decide +kernel
  have alone : ns.populated = [.setting] := rfl
  have word : Namespace.isWord "script".toList = true := by decide +kernel
  obtain ⟨_, _, same⟩ := resolveConf?_role_iff index (some context) parsed alone
  exact ⟨parsed, alone, same.2 ⟨rfl, word⟩⟩

def runtimeSite : SearchIndex where
  docnames := ["conf"]
  filenames := none
  titles := ["Configuration"]
  terms := .empty
  titleterms := none
  objects := some (.listed (.ofList [("flow", [⟨"cylc[runtime]", 0, 1, 1, ""⟩])]))
  objtypes := some (.ofList [("1", "cylc:section")])
  objnames := none
  envversion := none
  extra := .empty

/-- A section that is written in its brackets is found without the role, and not with it. -/
theorem bracketed_section_not_found :
    let context : Namespace := ⟨some "flow.cylc", [], none, none⟩
    let answer := fun role => (runtimeSite.resolveConf? "[runtime]" role (some context)).map
      fun (resolved, objects) => (resolved, objects.map SiteObject.fullname)
    (Namespace.parse? "[runtime]").map Namespace.populated = some [.section] ∧
      answer none = some (⟨some "flow.cylc", ["runtime"], none, none⟩, ["flow.cylc[runtime]"]) ∧
      answer (some .section) = some (⟨some "flow.cylc", ["[runtime]"], none, none⟩, []) := by
  decide +kernel

end SearchIndex
end DocSearch
