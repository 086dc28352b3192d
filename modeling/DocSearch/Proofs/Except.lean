/- When a computation that may fail has a result, and with which errors it fails. -/
namespace DocSearch

variable {ε α β : Type}

theorem bind_eq_ok {x : Except ε α} {f : α → Except ε β} {b : β} :
    x >>= f = .ok b ↔ ∃ a, x = .ok a ∧ f a = .ok b := by
  cases x with
  | error e => simp [bind, Except.bind]
  | ok a => simp [bind, Except.bind]

theorem map_eq_ok {x : Except ε α} {f : α → β} {b : β} :
    x.map f = .ok b ↔ ∃ a, x = .ok a ∧ f a = b := by
  cases x with
  | error e => simp [Except.map]
  | ok a => simp [Except.map]

theorem bind_eq_error {x : Except ε α} {f : α → Except ε β} {e : ε} :
    x >>= f = .error e ↔ x = .error e ∨ ∃ a, x = .ok a ∧ f a = .error e := by
  cases x with
  | error e' => simp [bind, Except.bind]
  | ok a => simp [bind, Except.bind]

theorem map_eq_error {x : Except ε α} {f : α → β} {e : ε} :
    x.map f = .error e ↔ x = .error e := by
  cases x with
  | error e' => simp [Except.map]
  | ok a => simp [Except.map]

theorem exists_map_eq_ok {x : Except ε α} {f : α → β} :
    (∃ b, x.map f = .ok b) ↔ ∃ a, x = .ok a := by
  cases x with
  | error e => simp [Except.map]
  | ok a => simp [Except.map]

theorem exists_bind_eq_ok {x : Except ε α} {f : α → Except ε β} {condition : Prop}
    (later : ∀ a, (∃ b, f a = .ok b) ↔ condition) :
    (∃ b, x >>= f = .ok b) ↔ (∃ a, x = .ok a) ∧ condition := by
  cases x with
  | error e => simp [bind, Except.bind]
  | ok a => simp [bind, Except.bind, later]

theorem exists_pure_eq_ok (a : α) : (∃ b, (pure a : Except ε α) = .ok b) ↔ True :=
  iff_of_true ⟨a, rfl⟩ trivial

theorem pure_eq_ok {a b : α} : (pure a : Except ε α) = .ok b ↔ a = b :=
  ⟨Except.ok.inj, congrArg Except.ok⟩

theorem throw_ne_ok {e : ε} {a : α} : (throw e : Except ε α) ≠ .ok a := by
  intro same
  cases same

/-- A computation that fails only with errors of one kind. -/
def FailsWith (kind : ε → Prop) (x : Except ε α) : Prop := ∀ e, x = .error e → kind e

namespace FailsWith
variable {kind : ε → Prop}

theorem ok (a : α) : FailsWith kind (.ok a) := by
  intro e failed
  cases failed

theorem bind {x : Except ε α} {f : α → Except ε β} (first : FailsWith kind x)
    (later : ∀ a, FailsWith kind (f a)) : FailsWith kind (x >>= f) := by
  intro e failed
  rcases bind_eq_error.1 failed with atOnce | ⟨a, _, after⟩
  · exact first e atOnce
  · exact later a e after

theorem map {x : Except ε α} {f : α → β} (fails : FailsWith kind x) :
    FailsWith kind (x.map f) := by
  intro e failed
  exact fails e (map_eq_error.1 failed)

end FailsWith
end DocSearch
