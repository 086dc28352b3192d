import DocSearch.Proofs.Index.Fields

/- Where the flaw stands that reading an index reports: a decoder finds fault only with the value
that it was given, and only a field that is not there is reported as missing. -/
namespace DocSearch

/-- The flaw stands at the path or further inside, and it is not that a field is missing. -/
structure ShapeError.StandsAt (e : ShapeError) (path : Path) : Prop where
  field : e.path.field = path.field
  steps : path.steps <+: e.path.steps
  expected : e.expected ≠ .presentField

abbrev FlawsAt {α : Type} (path : Path) (x : Except ShapeError α) : Prop :=
  FailsWith (·.StandsAt path) x

namespace FlawsAt
variable {α : Type} {path : Path}

theorem fail {expected : Shape} (other : expected ≠ .presentField) :
    FlawsAt path (Decoder.fail path expected : Except ShapeError α) := by
  intro e failed
  cases failed
  exact ⟨rfl, List.prefix_refl _, other⟩

theorem ofOption {expected : Shape} (other : expected ≠ .presentField) (found : Option α) :
    FlawsAt path (Decoder.ofOption path expected found) := by
  cases found with
  | none => exact fail other
  | some a => exact .ok a

theorem of_item {i : Nat} {x : Except ShapeError α} (flaws : FlawsAt (path.item i) x) :
    FlawsAt path x := by
  intro e failed
  have inside := flaws e failed
  exact ⟨inside.field, (List.prefix_append _ _).trans inside.steps, inside.expected⟩

theorem of_member {key : String} {x : Except ShapeError α} (flaws : FlawsAt (path.member key) x) :
    FlawsAt path x := by
  intro e failed
  have inside := flaws e failed
  exact ⟨inside.field, (List.prefix_append _ _).trans inside.steps, inside.expected⟩

end FlawsAt

def Decoder.FindsFlaws {α : Type} (decode : Decoder α) : Prop :=
  ∀ path v, FlawsAt path (decode path v)

namespace Decoder

theorem docNumber_findsFlaws : FindsFlaws docNumber :=
  fun _ _ => .ofOption (by decide) _

theorem integer_findsFlaws {expected : Shape} (other : expected ≠ .presentField) :
    FindsFlaws (integer expected) :=
  fun _ _ => .ofOption other _

theorem string_findsFlaws : FindsFlaws string :=
  fun _ _ => .ofOption (by decide) _

section
variable {α : Type}

theorem items_flawsAt {decode : Decoder α} (finds : FindsFlaws decode) (path : Path) (i : Nat)
    (values : List Value) : FlawsAt path (items decode path i values) := by
  induction values generalizing i with
  | nil => exact .ok _
  | cons v values ih =>
    refine (finds (path.item i) v).of_item.bind fun a => ?_
    exact (ih (i + 1)).bind fun rest => .ok _

theorem members_flawsAt {decode : String → Decoder α} (finds : ∀ key, FindsFlaws (decode key))
    (path : Path) (values : List (String × Value)) :
    FlawsAt path (members decode path values) := by
  induction values with
  | nil => exact .ok _
  | cons member values ih =>
    obtain ⟨key, v⟩ := member
    refine (finds key (path.member key) v).of_member.bind fun a => ?_
    exact ih.bind fun rest => .ok _

theorem list_findsFlaws {expected : Shape} (other : expected ≠ .presentField) {decode : Decoder α}
    (finds : FindsFlaws decode) : FindsFlaws (list expected decode) := by
  intro path v
  cases v with
  | array values => exact items_flawsAt finds path 0 values
  | null | bool | number | string | object => exact .fail other

theorem keyed_findsFlaws {expected : Shape} (other : expected ≠ .presentField)
    {decode : String → Decoder α} (finds : ∀ key, FindsFlaws (decode key)) :
    FindsFlaws (keyed expected decode) := by
  intro path v
  cases v with
  | object values => exact (members_flawsAt finds path values).map
  | null | bool | number | string | array => exact .fail other

end

theorem strings_findsFlaws : FindsFlaws strings := list_findsFlaws (by decide) string_findsFlaws

theorem posting_findsFlaws : FindsFlaws posting := by
  intro path v
  have doc (v : Value) := (docNumber_findsFlaws (path.item 0) v).of_item
  have weight (v : Value) : FlawsAt path (integer .weight (path.item 1) v) :=
    (integer_findsFlaws (by decide) (path.item 1) v).of_item
  have flags (v : Value) : FlawsAt path (integer .flags (path.item 2) v) :=
    (integer_findsFlaws (by decide) (path.item 2) v).of_item
  have anchor (v : Value) := (string_findsFlaws (path.item 3) v).of_item
  unfold posting
  split
  · exact (doc _).bind fun _ => .ok _
  · exact (doc _).bind fun _ => (weight _).bind fun _ => .ok _
  · exact (doc _).bind fun _ => (weight _).bind fun _ => (flags _).bind fun _ => .ok _
  · exact (doc _).bind fun _ => (weight _).bind fun _ => (flags _).bind fun _ =>
      (anchor _).bind fun _ => .ok _
  · exact .fail (by decide)

theorem postings_findsFlaws : FindsFlaws postings := by
  intro path v
  unfold postings
  split
  · exact (docNumber_findsFlaws path _).map
  · split
    · exact (items_flawsAt posting_findsFlaws path 0 _).map
    · exact (items_flawsAt docNumber_findsFlaws path 0 _).map
  · exact .fail (by decide)

theorem terms_findsFlaws : FindsFlaws terms :=
  keyed_findsFlaws (by decide) fun _ => postings_findsFlaws

theorem objectFields_flawsAt (name : String) (path : Path) (doc objtype priority anchor : Value) :
    FlawsAt path (objectFields name path doc objtype priority anchor) :=
  (docNumber_findsFlaws (path.item 0) doc).of_item.bind fun _ =>
    (docNumber_findsFlaws (path.item 1) objtype).of_item.bind fun _ =>
      (integer_findsFlaws (by decide) (path.item 2) priority).of_item.bind fun _ =>
        (string_findsFlaws (path.item 3) anchor).of_item.bind fun _ => .ok _

theorem namedObject_findsFlaws (name : String) : FindsFlaws (namedObject name) := by
  intro path v
  unfold namedObject
  split
  · exact objectFields_flawsAt name path _ _ _ _
  · exact .fail (by decide)

theorem listedObject_findsFlaws : FindsFlaws listedObject := by
  intro path v
  unfold listedObject
  split
  · exact (string_findsFlaws (path.item 4) _).of_item.bind fun name =>
      objectFields_flawsAt name path _ _ _ _
  · exact .fail (by decide)

theorem objects_findsFlaws : FindsFlaws objects := by
  intro path v
  unfold objects
  split
  · split
    · exact (keyed_findsFlaws (by decide)
        (fun _ => list_findsFlaws (by decide) listedObject_findsFlaws) path _).map
    · exact (keyed_findsFlaws (by decide)
        (fun _ => keyed_findsFlaws (by decide) namedObject_findsFlaws) path _).map
  · exact .fail (by decide)

theorem objtypes_findsFlaws : FindsFlaws objtypes :=
  keyed_findsFlaws (by decide) fun _ => string_findsFlaws

theorem objectName_findsFlaws : FindsFlaws objectName := by
  intro path v
  refine (strings_findsFlaws path v).bind fun texts => ?_
  split
  · exact .ok _
  · exact FlawsAt.fail (by decide)

theorem objnames_findsFlaws : FindsFlaws objnames :=
  keyed_findsFlaws (by decide) fun _ => objectName_findsFlaws

theorem envversion_findsFlaws : FindsFlaws envversion := by
  intro path v
  unfold envversion
  split
  · exact (integer_findsFlaws (by decide) path _).map
  · exact (keyed_findsFlaws (by decide) (fun _ => integer_findsFlaws (by decide)) path _).map
  · exact .fail (by decide)

end Decoder
end DocSearch
