import DocSearch.Index.Lookup
import DocSearch.Proofs.Index.Lossless
import DocSearch.Proofs.Literal.Writing

/- An index that was read from a text is read again from the text that it is written as, in
whichever dialect it is written. -/
namespace DocSearch.SearchIndex

theorem parse_eq_ok {source : String} {index : SearchIndex} {d : Dialect} :
    parse source = .ok (index, d) ↔
      ∃ v, Literal.parse source = .ok (v, d) ∧ ofValue v = .ok index := by
  unfold parse
  cases Literal.parse source with
  | error e => simp
  | ok found =>
    obtain ⟨v, detected⟩ := found
    dsimp only
    constructor
    · intro read
      split at read
      · cases read
      · rename_i other same
        cases read
        exact ⟨v, rfl, same⟩
    · rintro ⟨w, same, read⟩
      cases same
      rw [read]

theorem hasKey_of_ofValue {v : Value} {index : SearchIndex} (decoded : ofValue v = .ok index) :
    v.hasKey Literal.isBareKey = true := by
  cases v with
  | object values =>
    obtain ⟨read, _⟩ := ofValue_object_eq_ok.1 decoded
    obtain ⟨docnames, found, _⟩ := Decoder.field?_eq_some.1 read.docnames
    rw [Value.hasKey, Value.hasKeyInMembers_eq, List.any_eq_true]
    have bare : Literal.isBareKey "docnames" = true := by decide
    exact ⟨_, mem_of_lookup found, by simp only [bare, Bool.true_or]⟩
  | null | bool | number | string | array => cases decoded

theorem parse_toText {source : String} {index : SearchIndex} {detected : Dialect}
    (read : parse source = .ok (index, detected)) (d : Dialect) :
    parse (index.toText d) = .ok (index, d) := by
  obtain ⟨v, readValue, decoded⟩ := parse_eq_ok.1 read
  obtain ⟨bare, taken, _⟩ := Literal.parse_eq_ok.1 readValue
  obtain ⟨text, shallow⟩ := Literal.takeTextWithin_iff.1 taken
  have ordered := text.ordered
  have same : index.toValue = v := ofValue_lossless .root v index ordered decoded
  refine parse_eq_ok.2 ⟨v, ?_, decoded⟩
  rw [toText, same]
  refine Literal.parse_eq_ok.2 ⟨_, (Literal.takeText_writeCall d ordered).2 ⟨shallow, rfl⟩, ?_⟩
  rw [Literal.writesBare, hasKey_of_ofValue decoded]
  cases d <;> rfl

end DocSearch.SearchIndex
