import DocSearch.Stem.Regions

/- The stemmer for Spanish; accents are lost at the end. -/
namespace DocSearch.Stem.Spanish

def isVowel (c : Char) : Bool := "aeiouáéíóúü".toList.contains c

def unaccented (c : Char) : Char :=
  match c with
  | 'á' => 'a'
  | 'é' => 'e'
  | 'í' => 'i'
  | 'ó' => 'o'
  | 'ú' => 'u'
  | c => c

def pronouns : List String :=
  ["me", "se", "sela", "selo", "selas", "selos", "la", "le", "lo", "las", "les", "los", "nos"]

def hosts : List String :=
  ["iéndo", "ándo", "ár", "ér", "ír", "ando", "iendo", "ar", "er", "ir", "yendo"]

def dropPronoun (r : Regions) (word : List Char) : List Char :=
  match longest? pronouns word with
  | none => word
  | some (_, host) =>
    match longest? hosts host with
    | none => word
    | some (form, stem) =>
      if stem.length < r.verbal then word
      else if form = "yendo" then if endsIn "u" stem then host else word
      else if ["iéndo", "ándo", "ár", "ér", "ír"].contains form then
        stem ++ form.toList.map unaccented
      else host

def nounEndings : List String :=
  ["anza", "anzas", "ico", "ica", "icos", "icas", "ismo", "ismos", "able", "ables", "ible", "ibles",
   "ista", "istas", "oso", "osa", "osos", "osas", "amiento", "amientos", "imiento", "imientos"]

def agentEndings : List String :=
  ["adora", "ador", "ación", "adoras", "adores", "aciones", "ante", "antes", "ancia", "ancias"]

def replaced : List (String × String) :=
  [("logía", "log"), ("logías", "log"), ("ución", "u"), ("uciones", "u"), ("encia", "ente"),
   ("encias", "ente")]

def standardEndings : List String :=
  nounEndings ++ agentEndings ++ replaced.map Prod.fst ++
    ["amente", "mente", "idad", "idades", "iva", "ivo", "ivas", "ivos"]

def dropAdverbial (second : Nat) (stem : List Char) : List Char :=
  match longest? ["iv", "os", "ic", "ad"] stem with
  | none => stem
  | some (ending, shorter) =>
    if shorter.length < second then stem
    else if ending = "iv" then dropFrom second "at" shorter
    else shorter

def dropStandard? (r : Regions) (word : List Char) : Option (List Char) :=
  match longest? standardEndings word with
  | none => none
  | some ("amente", stem) =>
    if stem.length < r.first then none else some (dropAdverbial r.second stem)
  | some (ending, stem) =>
    if stem.length < r.second then none
    else match replaced.lookup ending with
      | some new => some (stem ++ new.toList)
      | none =>
        if agentEndings.contains ending then some (dropFrom r.second "ic" stem)
        else match ending with
          | "mente" => some (dropLongest r.second ["ante", "able", "ible"] stem)
          | "idad" | "idades" => some (dropLongest r.second ["abil", "ic", "iv"] stem)
          | "iva" | "ivo" | "ivas" | "ivos" => some (dropFrom r.second "at" stem)
          | _ => some stem

def dropYVerb? (r : Regions) (word : List Char) : Option (List Char) :=
  let endings :=
    ["ya", "ye", "yan", "yen", "yeron", "yendo", "yo", "yó", "yas", "yes", "yais", "yamos"]
  match longestFrom? r.verbal endings word with
  | some (_, stem) => if endsIn "u" stem then some stem else none
  | none => none

def verbEndings : List String :=
  ["arían", "arías", "arán", "arás", "aríais", "aría", "aréis", "aríamos", "aremos", "ará", "aré",
   "erían", "erías", "erán", "erás", "eríais", "ería", "eréis", "eríamos", "eremos", "erá", "eré",
   "irían", "irías", "irán", "irás", "iríais", "iría", "iréis", "iríamos", "iremos", "irá", "iré",
   "aba", "ada", "ida", "ía", "ara", "iera", "ad", "ed", "id", "ase", "iese", "aste", "iste", "an",
   "aban", "ían", "aran", "ieran", "asen", "iesen", "aron", "ieron", "ado", "ido", "ando", "iendo",
   "ió", "ar", "er", "ir", "as", "abas", "adas", "idas", "ías", "aras", "ieras", "ases", "ieses",
   "ís", "áis", "abais", "íais", "arais", "ierais", "aseis", "ieseis", "asteis", "isteis", "ados",
   "idos", "amos", "ábamos", "íamos", "imos", "áramos", "iéramos", "iésemos", "ásemos"]

def dropVerb (r : Regions) (word : List Char) : List Char :=
  match longestFrom? r.verbal (["en", "es", "éis", "emos"] ++ verbEndings) word with
  | none => word
  | some (ending, stem) =>
    if ["en", "es", "éis", "emos"].contains ending && endsIn "gu" stem then stem.dropLast else stem

def dropResidue (r : Regions) (word : List Char) : List Char :=
  match longest? ["os", "a", "o", "á", "í", "ó", "e", "é"] word with
  | none => word
  | some (ending, stem) =>
    if stem.length < r.verbal then word
    else if (ending = "e" || ending = "é") && endsIn "gu" stem && r.verbal < stem.length then
      stem.dropLast
    else stem

def stem (word : List Char) : List Char :=
  let r := romanceRegions isVowel word
  let word := dropPronoun r word
  let word := (dropStandard? r word).getD ((dropYVerb? r word).getD (dropVerb r word))
  (dropResidue r word).map unaccented

end DocSearch.Stem.Spanish
