import DocSearch.Literal.Basic

/- Induction on values, how deep the containers of a value stand inside one another, and which keys
its objects have. -/
namespace DocSearch.Value

@[elab_as_elim]
theorem induction {motive : Value → Prop} (null : motive .null) (bool : ∀ b, motive (.bool b))
    (number : ∀ n, motive (.number n)) (string : ∀ s, motive (.string s))
    (array : ∀ items : List Value, (∀ item ∈ items, motive item) → motive (.array items))
    (object : ∀ members : List (String × Value), (∀ member ∈ members, motive member.2) →
      motive (.object members)) (v : Value) : motive v :=
  @Value.rec motive (fun items => ∀ item ∈ items, motive item)
    (fun members => ∀ member ∈ members, motive member.2) (fun member => motive member.2)
    null bool number string array object
    (by simp) (fun _ _ first later => List.forall_mem_cons.2 ⟨first, later⟩)
    (by simp) (fun _ _ first later => List.forall_mem_cons.2 ⟨first, later⟩)
    (fun _ _ value => value) v

mutual

def depth : Value → Nat
  | .null | .bool _ | .number _ | .string _ => 0
  | .array items => depthOfItems items + 1
  | .object members => depthOfMembers members + 1

def depthOfItems : List Value → Nat
  | [] => 0
  | item :: items => max (depth item) (depthOfItems items)

def depthOfMembers : List (String × Value) → Nat
  | [] => 0
  | (_, value) :: members => max (depth value) (depthOfMembers members)

end

mutual

def hasKey (kind : String → Bool) : Value → Bool
  | .null | .bool _ | .number _ | .string _ => false
  | .array items => hasKeyInItems kind items
  | .object members => hasKeyInMembers kind members

def hasKeyInItems (kind : String → Bool) : List Value → Bool
  | [] => false
  | item :: items => hasKey kind item || hasKeyInItems kind items

def hasKeyInMembers (kind : String → Bool) : List (String × Value) → Bool
  | [] => false
  | (key, value) :: members => kind key || hasKey kind value || hasKeyInMembers kind members

end

theorem depthOfItems_le {items : List Value} {bound : Nat} :
    depthOfItems items ≤ bound ↔ ∀ item ∈ items, item.depth ≤ bound := by
  induction items with
  | nil => simp [depthOfItems]
  | cons item items ih => rw [depthOfItems, Nat.max_le, ih, List.forall_mem_cons]

theorem depthOfMembers_le {members : List (String × Value)} {bound : Nat} :
    depthOfMembers members ≤ bound ↔ ∀ member ∈ members, member.2.depth ≤ bound := by
  induction members with
  | nil => simp [depthOfMembers]
  | cons member members ih => rw [depthOfMembers, Nat.max_le, ih, List.forall_mem_cons]

theorem hasKeyInItems_eq (kind : String → Bool) (items : List Value) :
    hasKeyInItems kind items = items.any (hasKey kind) := by
  induction items with
  | nil => rfl
  | cons item items ih => simp [hasKeyInItems, ih]

theorem hasKeyInMembers_eq (kind : String → Bool) (members : List (String × Value)) :
    hasKeyInMembers kind members =
      members.any fun member => kind member.1 || hasKey kind member.2 := by
  induction members with
  | nil => rfl
  | cons member members ih => simp [hasKeyInMembers, ih]

theorem orderedItems_iff {items : List Value} :
    OrderedItems items ↔ ∀ item ∈ items, item.Ordered := by
  induction items with
  | nil => simp [OrderedItems]
  | cons item items ih => rw [OrderedItems, ih, List.forall_mem_cons]

theorem orderedMembers_iff {members : List (String × Value)} :
    OrderedMembers members ↔ ∀ member ∈ members, member.2.Ordered := by
  induction members with
  | nil => simp [OrderedMembers]
  | cons member members ih => rw [OrderedMembers, ih, List.forall_mem_cons]

end DocSearch.Value
