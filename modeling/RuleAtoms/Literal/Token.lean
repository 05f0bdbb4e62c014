/-
**Literals on one line.**

The token of a literal is its lexical form, followed by `@` and the tag of a language literal, or
by `^^` and the datatype of a typed one. Nothing is escaped, so the last mark decides, and a
lexical form that holds a mark itself may read back as another literal.

* `token_ofToken`: every text is the token of what it reads as.
-/

import RuleAtoms.Literal.Basic

namespace RuleAtoms.Literal

/-- Whether a text is one to eight characters, all of a class. -/
def isSubtag (allowed : Char → Bool) (text : List Char) : Bool :=
  1 ≤ text.length && text.length ≤ 8 && text.all allowed

/-- The pieces of a text between hyphens. -/
def subtags (tag : List Char) : List (List Char) := tag.splitOn '-'

/-- Whether a text is a well-formed language tag: subtags between hyphens, each of one to eight
ASCII characters, letters in the first one, letters and digits in the others. -/
def isLanguageTag (tag : String) : Bool :=
  match subtags tag.toList with
  | [] => false
  | first :: rest => isSubtag Char.isAlpha first && rest.all (isSubtag Char.isAlphanum)

/-- The literal as one token. -/
def token (literal : Literal) : String :=
  match literal.kind with
  | .plain => literal.lexical
  | .language tag => literal.lexical ++ "@" ++ tag
  | .typed datatype => literal.lexical ++ "^^" ++ datatype

/-- The lexical form and the datatype of a token with a datatype that is not empty. -/
def splitTyped? (token : String) : Option (String × String) :=
  match Text.splitLast? ['^', '^'] token.toList with
  | some (lexical, datatype) =>
    if datatype.isEmpty then none else some (String.ofList lexical, String.ofList datatype)
  | none => none

/-- The lexical form and the tag of a token with a well-formed language tag. -/
def splitLanguage? (token : String) : Option (String × String) :=
  match Text.splitLast? ['@'] token.toList with
  | some (lexical, tag) =>
    if isLanguageTag (String.ofList tag) then some (String.ofList lexical, String.ofList tag)
    else none
  | none => none

/-- The literal that a token denotes. A token without a proper mark is a plain literal. -/
def ofToken (token : String) : Literal :=
  match splitTyped? token with
  | some (lexical, datatype) => typed lexical datatype
  | none =>
    match splitLanguage? token with
    | some (lexical, tag) => language lexical tag
    | none => plain token

/-- The literal as it is shown to people, between quotes. Nothing is escaped. -/
def quotedForm (literal : Literal) : String :=
  match literal.kind with
  | .plain => "\"" ++ literal.lexical ++ "\""
  | .language tag => "\"" ++ literal.lexical ++ "\"@" ++ tag
  | .typed datatype => "\"" ++ literal.lexical ++ "\"^^<" ++ datatype ++ ">"

theorem eq_of_splitTyped? {token lexical datatype : String}
    (found : splitTyped? token = some (lexical, datatype)) :
    token = lexical ++ "^^" ++ datatype := by
  unfold splitTyped? at found
  split at found
  · rename_i before after split
    split at found
    · simp at found
    · simp only [Option.some.injEq, Prod.mk.injEq] at found
      obtain ⟨rfl, rfl⟩ := found
      apply String.toList_inj.mp
      simpa using Text.splitLast?_eq_some split
  · simp at found

theorem eq_of_splitLanguage? {token lexical tag : String}
    (found : splitLanguage? token = some (lexical, tag)) :
    token = lexical ++ "@" ++ tag := by
  unfold splitLanguage? at found
  split at found
  · rename_i before after split
    split at found
    · simp only [Option.some.injEq, Prod.mk.injEq] at found
      obtain ⟨rfl, rfl⟩ := found
      apply String.toList_inj.mp
      simpa using Text.splitLast?_eq_some split
    · simp at found
  · simp at found

theorem token_ofToken (text : String) : (ofToken text).token = text := by
  unfold ofToken
  split
  · rename_i found
    exact (eq_of_splitTyped? found).symm
  · split
    · rename_i found
      exact (eq_of_splitLanguage? found).symm
    · rfl

end RuleAtoms.Literal
