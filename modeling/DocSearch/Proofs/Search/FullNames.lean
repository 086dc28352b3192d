import DocSearch.Proofs.Search.Results
import DocSearch.Proofs.Text.Lowercase

/- The chunks of a query and the full name of an object. The chunk that an object is found by may reach
across the dot in its full name; the others have to stand in the prefix or in the name. So one chunk that
reaches across does no harm and two do, and an object is found under its own full name. -/
namespace DocSearch.SearchIndex
variable {index : SearchIndex} {scorer : Scorer} {language : Language} {query : String} {limit : Nat}
  {chunks : List String} {chunk : String} {object : SiteObject} {document : Document}

def InFullName (object : SiteObject) (chunk : String) : Prop :=
  chunk.toList <:+: Text.lower object.fullname.toList

/-- The chunk stands in one part of an object's description: its prefix, its name, its label or the
title of its page. -/
def InPart (object : SiteObject) (document : Document) (chunk : String) : Prop :=
  ∃ part ∈ [object.scope, object.name, object.label, document.title],
    chunk.toList <:+: Text.lower part.toList

/-- An object that a query speaks of: some chunk stands in its full name, and every chunk in its full
name, in its label or in the title of its page. -/
structure SpokenOf (index : SearchIndex) (chunks : List String) (object : SiteObject)
    (document : Document) : Prop where
  listed : object ∈ index.siteObjects
  visible : 0 ≤ object.priority
  placed : object.document = some document
  named : ∃ chunk ∈ chunks, InFullName object chunk
  described : ∀ chunk ∈ chunks, InFullName object chunk ∨
    chunk.toList <:+: Text.lower object.label.toList ∨
      chunk.toList <:+: Text.lower document.title.toList

/-- No two chunks stand in none of the parts. -/
def OneAcross (chunks : List String) (object : SiteObject) (document : Document) : Prop :=
  ∀ a ∈ chunks, ∀ b ∈ chunks, ¬ InPart object document a → ¬ InPart object document b → a = b

theorem infix_description_iff (unbroken : ' ' ∉ chunk.toList) :
    chunk.toList <:+: Text.lower (object.scope ++ " " ++ object.name ++ " " ++ object.label ++ " " ++
      document.title).toList ↔ InPart object document chunk := by
  have text : (object.scope ++ " " ++ object.name ++ " " ++ object.label ++ " " ++
      document.title).toList = object.scope.toList ++ ' ' :: (object.name.toList ++
        ' ' :: (object.label.toList ++ ' ' :: document.title.toList)) := by
    simp
  rw [text, Text.lower_append_space, Text.lower_append_space, Text.lower_append_space,
    Text.infix_separated unbroken, Text.infix_separated unbroken, Text.infix_separated unbroken]
  simp [InPart]

theorem space_not_mem_chunk [Stemmers] (asked : chunk ∈ (QueryTerms.parse language query).objects) :
    ' ' ∉ chunk.toList := by
  obtain ⟨piece, member, rfl⟩ := QueryTerms.mem_objects_parse.1 asked
  rw [String.toList_ofList]
  apply Text.space_not_mem_lower
  intro inside
  have within := (Text.of_mem_pieces member).1 ' ' inside
  cases within

section
variable (unbroken : ∀ chunk ∈ chunks, ' ' ∉ chunk.toList)
include unbroken

theorem Qualifies.oneAcross (qualifies : index.Qualifies chunks object document chunk) :
    OneAcross chunks object document := by
  have main (other : String) (asked : other ∈ chunks) (outside : ¬ InPart object document other) :
      other = chunk := by
    by_contra different
    exact outside ((infix_description_iff (unbroken other asked)).1
      (qualifies.described other asked different))
  intro a askedA b askedB outsideA outsideB
  rw [main a askedA outsideA, main b askedB outsideB]

/-- The chunk that stands in none of the parts is the one to find the object by, if there is one. -/
theorem SpokenOf.exists_qualifies (spoken : index.SpokenOf chunks object document)
    (one : OneAcross chunks object document) :
    ∃ chunk, index.Qualifies chunks object document chunk := by
  have qualifies (main : String) (asked : main ∈ chunks) (named : InFullName object main)
      (others : ∀ other ∈ chunks, other ≠ main → InPart object document other) :
      index.Qualifies chunks object document main :=
    ⟨spoken.listed, spoken.visible, spoken.placed, asked, named, fun other member different =>
      (infix_description_iff (unbroken other member)).2 (others other member different)⟩
  by_cases inside : ∀ chunk ∈ chunks, InPart object document chunk
  · obtain ⟨main, asked, named⟩ := spoken.named
    exact ⟨main, qualifies main asked named fun other member _ => inside other member⟩
  · obtain ⟨main, asked, outside⟩ := by simpa using inside
    refine ⟨main, qualifies main asked ?_ fun other member different => ?_⟩
    · rcases spoken.described main asked with named | label | title
      · exact named
      · exact absurd ⟨object.label, by simp, label⟩ outside
      · exact absurd ⟨document.title, by simp, title⟩ outside
    · by_contra other_outside
      exact different (one other member main asked other_outside outside)

end

theorem mem_keys_of_search [Stemmers] (unlimited : (index.found scorer language query).length ≤ limit)
    {key : Nat × Option String × String} :
    key ∈ ((index.search scorer language query limit).filter (·.kind = .object)).map objectKey ↔
      ∃ object document chunk,
        index.Qualifies (QueryTerms.parse language query).objects object document chunk ∧
          key = (document.doc, some object.anchor, object.fullname) := by
  have perm := ((search_perm_found unlimited).filter (·.kind = .object)).map objectKey
  rw [perm.mem_iff, objects_of_found]
  exact mem_keys_objectResults (QueryTerms.parse_distinct language query).objects

theorem exists_entry (listed : object ∈ index.siteObjects) :
    object.fullname = fullName object.scope object.name ∧
      ∃ doc, object.document = index.document? doc := by
  obtain ⟨⟨scope, entry⟩, _, rfl⟩ := List.mem_map.1 listed
  exact ⟨rfl, _, rfl⟩

theorem document_unique {twin : SiteObject} {other : Document} (listed : object ∈ index.siteObjects)
    (listedTwin : twin ∈ index.siteObjects) (placed : object.document = some document)
    (placedTwin : twin.document = some other) (same : other.doc = document.doc) :
    other = document := by
  obtain ⟨_, doc, found⟩ := exists_entry listed
  obtain ⟨_, docTwin, foundTwin⟩ := exists_entry listedTwin
  rw [placed] at found
  rw [placedTwin] at foundTwin
  have here := document?_doc found.symm
  have there := document?_doc foundTwin.symm
  have doc : docTwin = doc := there.symm.trans (same.trans here)
  rw [doc, ← found] at foundTwin
  exact Option.some.inj foundTwin

/-- An object that the query speaks of is found if no two chunks of the query stand in none of its
parts. If two do, only another object of the same page, anchor and full name can be found in its
place. -/
theorem spoken_object_found [Stemmers] (unlimited : (index.found scorer language query).length ≤ limit)
    (spoken : index.SpokenOf (QueryTerms.parse language query).objects object document) :
    let chunks := (QueryTerms.parse language query).objects
    let objects := (index.search scorer language query limit).filter (·.kind = .object)
    let key := (document.doc, some object.anchor, object.fullname)
    (OneAcross chunks object document → key ∈ objects.map objectKey) ∧
      (key ∈ objects.map objectKey → ∃ twin ∈ index.siteObjects, twin.document = some document ∧
        twin.anchor = object.anchor ∧ twin.fullname = object.fullname ∧
          OneAcross chunks twin document) := by
  intro chunks objects key
  have unbroken : ∀ chunk ∈ chunks, ' ' ∉ chunk.toList := fun chunk => space_not_mem_chunk
  refine ⟨fun one => ?_, fun found => ?_⟩
  · obtain ⟨chunk, qualifies⟩ := spoken.exists_qualifies unbroken one
    exact (mem_keys_of_search unlimited).2 ⟨object, document, chunk, qualifies, rfl⟩
  · obtain ⟨twin, other, chunk, qualifies, same⟩ := (mem_keys_of_search unlimited).1 found
    have doc : document.doc = other.doc := congrArg (·.1) same
    have anchor : object.anchor = twin.anchor := Option.some.inj (congrArg (·.2.1) same)
    have fullname : object.fullname = twin.fullname := congrArg (·.2.2) same
    have page := document_unique spoken.listed qualifies.listed spoken.placed qualifies.placed doc.symm
    subst page
    exact ⟨twin, qualifies.listed, qualifies.placed, anchor.symm, fullname.symm,
      qualifies.oneAcross unbroken⟩

def cell : SiteObject := smallSite.resolveEntry "layout" ⟨"Cell", 0, 0, 0, ""⟩

def installPage : Document := ⟨0, "install", "Grid", none⟩

theorem cell_spokenOf {query : String}
    (named : ∃ chunk ∈ (QueryTerms.parse .english query).objects, InFullName cell chunk)
    (described : ∀ chunk ∈ (QueryTerms.parse .english query).objects, InFullName cell chunk ∨
      chunk.toList <:+: Text.lower installPage.title.toList) :
    smallSite.SpokenOf (QueryTerms.parse .english query).objects cell installPage where
  listed := by decide +kernel
  visible := by decide
  placed := rfl
  named := named
  described chunk asked := (described chunk asked).imp_right Or.inr

theorem chunks_across_and_titled :
    (QueryTerms.parse .english "out.cell grid").objects = ["out.cell", "grid"] := by
  decide +kernel

theorem spoken_object_found_cell :
    let query := "out.cell grid"
    let chunks := (QueryTerms.parse .english query).objects
    let objects := (smallSite.search .default .english query 3).filter (·.kind = .object)
    (smallSite.found .default .english query).length ≤ 3 ∧
      smallSite.SpokenOf chunks cell installPage ∧ OneAcross chunks cell installPage ∧
        (0, some "layout.Cell", "layout.Cell") ∈ objects.map objectKey := by
  have across : InFullName cell "out.cell" := Text.occursIn_iff.1 (by decide +kernel)
  have titled : "grid".toList <:+: Text.lower installPage.title.toList :=
    Text.occursIn_iff.1 (by decide +kernel)
  have unlimited : (smallSite.found .default .english "out.cell grid").length ≤ 3 := by decide +kernel
  have spoken : smallSite.SpokenOf (QueryTerms.parse .english "out.cell grid").objects cell
      installPage := by
    apply cell_spokenOf <;> rw [chunks_across_and_titled]
    · exact ⟨_, List.mem_cons_self, across⟩
    · exact List.forall_mem_cons.2 ⟨Or.inl across, List.forall_mem_singleton.2 (Or.inr titled)⟩
  have one : OneAcross (QueryTerms.parse .english "out.cell grid").objects cell installPage := by
    have inside : InPart cell installPage "grid" := ⟨installPage.title, by simp, titled⟩
    rw [chunks_across_and_titled]
    simp [OneAcross, inside]
  exact ⟨unlimited, spoken, one, (spoken_object_found unlimited spoken).1 one⟩

/-- Both chunks stand in the full name of the cell, across its dot, and the cell is not found. -/
theorem two_chunks_across_dot :
    let query := "out.cell layout.c"
    let chunks := (QueryTerms.parse .english query).objects
    (smallSite.found .default .english query).length ≤ 3 ∧
      smallSite.SpokenOf chunks cell installPage ∧
        (0, some "layout.Cell", "layout.Cell") ∉
          ((smallSite.search .default .english query 3).filter (·.kind = .object)).map objectKey := by
  have chunks : (QueryTerms.parse .english "out.cell layout.c").objects =
      ["out.cell", "layout.c"] := by
    decide +kernel
  have first : InFullName cell "out.cell" := Text.occursIn_iff.1 (by decide +kernel)
  have second : InFullName cell "layout.c" := Text.occursIn_iff.1 (by decide +kernel)
  refine ⟨by decide +kernel, ?_, by decide +kernel⟩
  apply cell_spokenOf <;> rw [chunks]
  · exact ⟨_, List.mem_cons_self, first⟩
  · simp [first, second]

theorem fullname_parts (listed : object ∈ index.siteObjects) :
    object.fullname.toList = object.name.toList ∨
      object.fullname.toList = object.scope.toList ++ '.' :: object.name.toList := by
  rw [(exists_entry listed).1, fullName]
  split
  · exact Or.inl rfl
  · exact Or.inr (by simp)

section
variable (listed : object ∈ index.siteObjects) (plain : 'Σ' ∉ object.fullname.toList)
include plain

theorem inFullName_of_mem_chunks [Stemmers]
    (asked : chunk ∈ (QueryTerms.parse language object.fullname).objects) :
    InFullName object chunk := by
  obtain ⟨piece, member, rfl⟩ := QueryTerms.mem_objects_parse.1 asked
  rw [InFullName, String.toList_ofList]
  exact Text.lower_infix plain (Text.of_mem_pieces member).2

include listed

/-- Of the chunks of an object's full name only the one with the dot in it can reach across. -/
theorem oneAcross_own_name [Stemmers] (document : Document) :
    OneAcross (QueryTerms.parse language object.fullname).objects object document := by
  have inPart (part : String) (one : part ∈ [object.scope, object.name, object.label, document.title])
      (inName : part.toList <:+: object.fullname.toList) {piece : List Char}
      (inside : piece <:+: part.toList) : InPart object document (String.ofList (Text.lower piece)) := by
    refine ⟨part, one, ?_⟩
    rw [String.toList_ofList]
    exact Text.lower_infix (fun member => plain (inName.subset member)) inside
  suffices single : ∃ middle, ∀ piece ∈ Text.pieces Text.isBlank object.fullname.toList,
      piece = middle ∨ InPart object document (String.ofList (Text.lower piece)) by
    obtain ⟨middle, rest⟩ := single
    have only {chunk : String} (asked : chunk ∈ (QueryTerms.parse language object.fullname).objects)
        (outside : ¬ InPart object document chunk) : chunk = String.ofList (Text.lower middle) := by
      obtain ⟨piece, member, rfl⟩ := QueryTerms.mem_objects_parse.1 asked
      rw [(rest piece member).resolve_right outside]
    intro a askedA b askedB outsideA outsideB
    rw [only askedA outsideA, only askedB outsideB]
  rcases fullname_parts listed with name | parts
  · refine ⟨[], fun piece member => Or.inr ?_⟩
    exact inPart object.name (by simp) (name ▸ List.infix_rfl)
      (name ▸ (Text.of_mem_pieces member).2)
  · obtain ⟨front, middle, back, pieces, before, behind⟩ :=
      Text.pieces_around object.scope.toList object.name.toList
        (show Text.isBlank '.' = false by decide)
    rw [parts, pieces]
    refine ⟨middle, fun piece member => ?_⟩
    rcases List.mem_append.1 member with first | rest
    · refine Or.inr (inPart object.scope (by simp) ?_ (before piece first))
      exact parts ▸ (List.prefix_append _ _).isInfix
    · rcases List.mem_cons.1 rest with rfl | last
      · exact Or.inl rfl
      · refine Or.inr (inPart object.name (by simp) ?_ (behind piece last))
        exact parts ▸ ((List.suffix_cons _ _).trans (List.suffix_append _ _)).isInfix

theorem spokenOf_own_name [Stemmers]
    (visible : 0 ≤ object.priority) (placed : object.document = some document)
    (filled : ∃ c ∈ object.fullname.toList, Text.isBlank c = false) :
    index.SpokenOf (QueryTerms.parse language object.fullname).objects object document := by
  refine ⟨listed, visible, placed, ?_, fun chunk asked => Or.inl (inFullName_of_mem_chunks plain asked)⟩
  obtain ⟨c, member, within⟩ := filled
  obtain ⟨before, behind, text⟩ := List.append_of_mem member
  obtain ⟨front, middle, back, pieces, _⟩ := Text.pieces_around before behind within
  have asked : String.ofList (Text.lower middle) ∈ (QueryTerms.parse language object.fullname).objects :=
    QueryTerms.mem_objects_parse.2 ⟨middle, by rw [text, pieces]; simp, rfl⟩
  exact ⟨_, asked, inFullName_of_mem_chunks plain asked⟩

end

theorem objectScore_own_name [Stemmers]
    (unbroken : ∀ c ∈ object.fullname.toList, Text.isBlank c = false)
    (filled : object.fullname.toList ≠ [])
    (asked : chunk ∈ (QueryTerms.parse language object.fullname).objects) :
    objectScore scorer object chunk = scorer.objNameMatch + scorer.priority object.priority := by
  have single : Text.pieces Text.isBlank object.fullname.toList = [object.fullname.toList] :=
    Text.piecesFrom_run filled unbroken
  obtain ⟨piece, member, rfl⟩ := QueryTerms.mem_objects_parse.1 asked
  rw [single] at member
  rw [List.mem_singleton.1 member, objectScore, String.toList_ofList, Scorer.objectName]
  simp

/-- The search for an object's own full name finds the object, if anything but white space is in the name.
The lowercase of a capital sigma depends on what stands around it; in names of other letters, all ASCII
names among them, nothing goes amiss. If the name has no white space, the object's score is at least that
of a match of its whole name: the sum of the two weights in 64 bits, which is the exact one if it fits. -/
theorem own_full_name_found [Stemmers] {limit : Nat}
    (unlimited : (index.found scorer language object.fullname).length ≤ limit)
    (listed : object ∈ index.siteObjects) (visible : 0 ≤ object.priority)
    (placed : object.document = some document) (plain : 'Σ' ∉ object.fullname.toList)
    (filled : ∃ c ∈ object.fullname.toList, Text.isBlank c = false) :
    ∃ result ∈ index.search scorer language object.fullname limit, result.kind = .object ∧
      objectKey result = (document.doc, some object.anchor, object.fullname) ∧
        ((∀ c ∈ object.fullname.toList, Text.isBlank c = false) →
          scorer.objNameMatch + scorer.priority object.priority ≤ result.score ∧
            (FitsWord (scorer.objNameMatch.toInt + (scorer.priority object.priority).toInt) →
              scorer.objNameMatch.toInt + (scorer.priority object.priority).toInt ≤
                result.score.toInt)) := by
  have spoken : index.SpokenOf (QueryTerms.parse language object.fullname).objects object document :=
    spokenOf_own_name listed plain visible placed filled
  have one : OneAcross (QueryTerms.parse language object.fullname).objects object document :=
    oneAcross_own_name listed plain document
  obtain ⟨chunk, qualifies⟩ := spoken.exists_qualifies (fun _ => space_not_mem_chunk) one
  have key := (mem_keys_of_search unlimited).2 ⟨object, document, chunk, qualifies, rfl⟩
  obtain ⟨result, found, same⟩ := List.mem_map.1 key
  obtain ⟨member, kind⟩ := List.mem_filter.1 found
  have kind : result.kind = .object := of_decide_eq_true kind
  refine ⟨result, member, kind, same, fun unbroken => ?_⟩
  have filled : object.fullname.toList ≠ [] := List.ne_nil_of_mem filled.choose_spec.1
  have best := (objectResults_best (QueryTerms.parse_distinct language object.fullname).objects
    (object_of_mem_search member kind)).1
  rw [same] at best
  have least : scorer.objNameMatch + scorer.priority object.priority ≤ result.score :=
    best.2 ⟨object, document, chunk, qualifies, rfl,
      (objectScore_own_name unbroken filled qualifies.asked).symm⟩
  refine ⟨least, fun fits => ?_⟩
  rw [← fits.toInt_add]
  exact Int64.le_iff_toInt_le.1 least

def signatureSite : SearchIndex where
  docnames := ["api"]
  filenames := none
  titles := ["API"]
  terms := .empty
  titleterms := none
  objects := some (.listed (.ofList [("grid set", [⟨"cell (row", 0, 0, 1, ""⟩])]))
  objtypes := none
  objnames := none
  envversion := none
  extra := .empty

theorem own_full_name_found_signature :
    let signature := signatureSite.resolveEntry "grid set" ⟨"cell (row", 0, 0, 1, ""⟩
    ((signatureSite.found .default .english signature.fullname).length ≤ 1 ∧
      signature ∈ signatureSite.siteObjects ∧
        signature.document = some ⟨0, "api", "API", none⟩ ∧ 'Σ' ∉ signature.fullname.toList ∧
          (∃ c ∈ signature.fullname.toList, Text.isBlank c = false) ∧
            ∃ result ∈ signatureSite.search .default .english signature.fullname 1,
              objectKey result = (0, some "grid set.cell (row", "grid set.cell (row")) ∧
      ∃ result ∈ smallSite.search .default .english cell.fullname 3,
        objectKey result = (0, some "layout.Cell", "layout.Cell") ∧ 11 + 15 ≤ result.score.toInt := by
  intro signature
  constructor
  · have unlimited : (signatureSite.found .default .english signature.fullname).length ≤ 1 := by
      decide +kernel
    have listed : signature ∈ signatureSite.siteObjects := by decide +kernel
    have placed : signature.document = some ⟨0, "api", "API", none⟩ := by decide +kernel
    have plain : 'Σ' ∉ signature.fullname.toList := by decide +kernel
    have filled : ∃ c ∈ signature.fullname.toList, Text.isBlank c = false :=
      ⟨'g', by decide +kernel, by decide⟩
    obtain ⟨result, member, _, same, _⟩ :=
      own_full_name_found unlimited listed (by decide) placed plain filled
    exact ⟨unlimited, listed, placed, plain, filled, result, member, same⟩
  · have unlimited : (smallSite.found .default .english cell.fullname).length ≤ 3 := by
      decide +kernel
    have listed : cell ∈ smallSite.siteObjects := by decide +kernel
    have placed : cell.document = some installPage := rfl
    have filled : ∃ c ∈ cell.fullname.toList, Text.isBlank c = false :=
      ⟨'l', by decide +kernel, by decide⟩
    have unbroken : cell.fullname.toList.all (!Text.isBlank ·) = true := by decide +kernel
    obtain ⟨result, member, _, same, score⟩ :=
      own_full_name_found unlimited listed (by decide) placed (by decide +kernel) filled
    have fits : FitsWord (11 + 15) := ⟨by decide, by decide⟩
    exact ⟨result, member, same, (score (by simpa using unbroken)).2 fits⟩

end DocSearch.SearchIndex
