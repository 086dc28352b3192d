import DocSearch.Namespace.Basic
import DocSearch.Text.Basic
import DocSearch.Text.WordChar

/- Reading configuration namespaces. No word holds a bracket, a bar or an equals sign, so the first
of these decides how a text is cut. -/
namespace DocSearch.Namespace

def isLead (c : Char) : Bool := Text.isWordChar c || c == '<' || c == '-'

def isStart (c : Char) : Bool := Text.isWordChar c || c == '-'

def isInner (c : Char) : Bool := Text.isWordChar c || c == '-' || c == ' ' || c == '.'

def isLast (c : Char) : Bool := Text.isWordChar c || c == '>'

def innersThenLast : List Char → Bool
  | [] => false
  | [c, d] => isInner c && isLast d
  | c :: rest => isInner c && innersThenLast rest

def isLongWord : List Char → Bool
  | [] => false
  | c :: rest => isStart c && innersThenLast rest

/-- A component's name. Words may open and close with angle brackets and hold spaces and dots. -/
def isWord : List Char → Bool
  | [] => false
  | [c] => isLast c
  | [c, d] => isLead c && isLast d
  | c :: rest => isLongWord (c :: rest) || (isLead c && isLongWord rest)

def word? (s : List Char) : Option (Option String) :=
  if s.isEmpty then some none
  else if isWord s then some (some (String.ofList s))
  else none

def maxSections : Nat := 3

def takeSections : (limit : Nat) → List Char → Option (List String × List Char)
  | limit + 1, '[' :: rest =>
    let name := rest.takeWhile (· ≠ ']')
    match rest.dropWhile (· ≠ ']') with
    | ']' :: rest =>
      if isWord name then
        (takeSections limit rest).map fun (names, rest) => (String.ofList name :: names, rest)
      else none
    | _ => none
  | _, s => some ([], s)

def parseFront (s : List Char) : Option Namespace :=
  let before := s.takeWhile (· ≠ '|')
  match s.dropWhile (· ≠ '|') with
  | _ :: rest => do
    let conf ← word? before
    let setting ← word? rest
    return { empty with conf, setting }
  | [] =>
    if s.contains '[' then do
      let conf ← word? (s.takeWhile (· ≠ '['))
      let (sections, rest) ← takeSections maxSections (s.dropWhile (· ≠ '['))
      let setting ← word? rest
      return { empty with conf, sections, setting }
    else do
      let setting ← word? s
      return { empty with setting }

def parse? (text : String) : Option Namespace :=
  let s := text.toList
  match s.dropWhile (· ≠ '=') with
  | [] => parseFront s
  | _ :: rest =>
    let value := Text.trimLeft rest
    if value.contains '\n' then none else do
      let front ← parseFront (Text.trimRight (s.takeWhile (· ≠ '=')))
      return { front with value := present? (String.ofList value) }

def invalidMessage (text : String) : String := "Not a valid namespace \"" ++ text ++ "\""

end DocSearch.Namespace
