/-
**Tags read back.**

A tag is written as a name and attributes with quoted values, in which the characters that have a
meaning are replaced. If the quotes in it open and close values only, no quote is left open
(`Balanced`), and the tag ends at the bracket that was written behind it. This is so for the names that
are usual (`IsName`), but a name that is read from a tag (`IsTag`) may hold nearly everything.

* `tag?_opening`, `tag?_single`: both forms of a balanced tag are read as the name and the attributes
  they were written from;
* `markup?_closing`: so is a closing tag;
* `plainText?_escape`: a text is read up to the tag behind it.
-/

import RuleAtoms.Markup.Element
import RuleAtoms.Proofs.Markup.Attributes

namespace RuleAtoms.Markup

open Text (Ends)

/-- The characters without a meaning in a tag, wherever they stand in a name. -/
def isNameChar (c : Char) : Bool :=
  !isTagBlank c && !(['>', '"', '\'', '/', '=', '!', '?'].contains c)

/-- A name of an element or an attribute that ends where it was written to end. -/
structure IsName (name : String) : Prop where
  nonempty : name ≠ ""
  characters : ∀ c ∈ name.toList, isNameChar c = true

theorem isNameChar_iff {c : Char} :
    isNameChar c = true ↔ isTagBlank c = false ∧ c ∉ ['>', '"', '\'', '/', '=', '!', '?'] := by
  unfold isNameChar
  rw [Bool.and_eq_true, Bool.not_eq_true', Bool.not_eq_true', List.contains_eq_mem,
    decide_eq_false_iff_not]

theorem ne_of_isNameChar {c other : Char} (isName : isNameChar c = true)
    (special : isNameChar other = false) : c ≠ other := by
  rintro rfl
  exact Bool.false_ne_true (special.symm.trans isName)

theorem not_isTagBlank_of_isNameChar {c : Char} (isName : isNameChar c = true) :
    (!isTagBlank c) = true := by
  rw [(isNameChar_iff.mp isName).1, Bool.not_false]

/-- The first character of a name and those behind it. -/
theorem IsName.exists_cons {name : String} (isName : IsName name) :
    ∃ first rest, name.toList = first :: rest ∧ isNameChar first = true ∧
      ∀ c ∈ rest, isNameChar c = true := by
  obtain ⟨first, rest, characters⟩ := List.exists_cons_of_ne_nil
    (fun isNil => isName.nonempty (String.toList_inj.mp isNil))
  have allNames := isName.characters
  rw [characters] at allNames
  exact ⟨first, rest, characters, allNames first List.mem_cons_self,
    fun c member => allNames c (List.mem_cons_of_mem _ member)⟩

/-- A name that neither ends a tag nor opens a quote. -/
def IsPlain (name : String) : Prop := ∀ c ∈ name.toList, c ∉ ['>', '"', '\'']

theorem IsName.isPlain {name : String} (isName : IsName name) : IsPlain name := by
  intro c member special
  have inName := (isNameChar_iff.mp (isName.characters c member)).2
  exact inName (List.mem_append_left ['/', '=', '!', '?'] special)

/-- A name and attributes that a tag can have. -/
structure IsTag (name : String) (attributes : Keyed String) : Prop where
  noBlank : ∀ c ∈ name.toList, isTagBlank c = false
  start : ∀ c ∈ name.toList.head?, c ∉ ['/', '?', '!']
  keys : ∀ entry ∈ attributes.entries, IsKey entry.1

theorem IsName.isKey {name : String} (isName : IsName name) : IsKey name := by
  obtain ⟨first, rest, characters, firstName, restNames⟩ := isName.exists_cons
  refine ⟨first, rest, characters, (isNameChar_iff.mp firstName).1, fun c member => ?_⟩
  rw [Bool.and_eq_true, bne_iff_ne]
  exact ⟨ne_of_isNameChar (restNames c member) (by decide),
    not_isTagBlank_of_isNameChar (restNames c member)⟩

theorem IsName.isTag {name : String} {attributes : Keyed String} (isName : IsName name)
    (names : ∀ entry ∈ attributes.entries, IsName entry.1) : IsTag name attributes where
  noBlank c member := (isNameChar_iff.mp (isName.characters c member)).1
  start c isFirst special := by
    have inName := isName.characters c (List.mem_of_mem_head? isFirst)
    have noName : ['/', '?', '!'].all (!isNameChar ·) = true := by decide
    rw [List.all_eq_true] at noName
    exact Bool.false_ne_true (((Bool.not_eq_true' _).mp (noName c special)).symm.trans inName)
  keys entry member := (names entry member).isKey

/-! ### Escaped texts -/

/-- The characters that end a text or a value. -/
def endMarks : List Char := ['<', '>', '\'', '"']

theorem not_mem_endMarks {c original : Char} (member : c ∈ escapeChar original) :
    c ∉ endMarks := by
  have inReference : ∀ {reference : String}, reference.toList.all (· ∉ endMarks) = true →
      c ∈ reference.toList → c ∉ endMarks :=
    fun noMark inside => of_decide_eq_true (List.all_eq_true.mp noMark c inside)
  unfold escapeChar at member
  split at member
  · exact inReference (by decide) member
  · exact inReference (by decide) member
  · exact inReference (by decide) member
  · exact inReference (by decide) member
  · exact inReference (by decide) member
  · rename_i noLess noGreater _ noApostrophe noQuote
    rw [List.mem_singleton.mp member]
    simpa [endMarks] using ⟨noLess, noGreater, noApostrophe, noQuote⟩

/-- No character that ends a text or a value is left in an escaped text. -/
theorem not_mem_escape {c : Char} (ends : c ∈ endMarks) (text : List Char) : c ∉ escape text := by
  intro member
  obtain ⟨original, -, inChar⟩ := List.mem_flatMap.mp member
  exact not_mem_endMarks inChar ends

theorem bne_of_mem_escape {mark : Char} (ends : mark ∈ endMarks) (text : List Char) :
    ∀ c ∈ escape text, (c != mark) = true := by
  intro c member
  rw [bne_iff_ne]
  rintro rfl
  exact not_mem_escape ends text member

/-- An escaped text is read up to the tag behind it. -/
theorem plainText?_escape (text rest : List Char) :
    plainText? (escape text ++ '<' :: rest) = some (.text text, '<' :: rest) := by
  have isRun : ∀ c ∈ escape text, (c != '<') = true := bne_of_mem_escape (by decide) text
  have ends : Ends (· != '<') ('<' :: rest) := Text.ends_cons (by decide)
  unfold plainText?
  rw [Text.takeWhile_run isRun ends, Text.dropWhile_run isRun ends, unescape_escape]
  rfl

/-! ### Attributes -/

/-- A written attribute is a blank, the name, and the value between quotes. -/
theorem writeAttribute_append (key value : String) (rest : List Char) :
    Element.writeAttribute (key, value) ++ rest =
      ' ' :: (key.toList ++ '=' :: '"' :: (escape value.toList ++ '"' :: rest)) := by
  simp [Element.writeAttribute]

/-- **A written attribute is read** as one more attribute, if its name is new. -/
theorem attributesBehind?_write {known : Keyed String} {key : String} (isKey : IsKey key)
    (fresh : known.contains key = false) (value : String) (rest : List Char) :
    attributesBehind? known (Element.writeAttribute (key, value) ++ rest) =
      attributesBehind? (known.insert key value) rest := by
  obtain ⟨first, name, characters, visible, inName⟩ := isKey
  have isValue : attributeValue? ('"' :: (escape value.toList ++ '"' :: rest)) =
      some (escape value.toList, rest) :=
    attributeValue?_eq_some_iff.mpr ⟨[], '"', rfl, List.forall_mem_nil _, Or.inl rfl,
      not_mem_escape (c := '"') (by decide) value.toList⟩
  have isRead : oneAttribute? first (name ++ '=' :: '"' :: (escape value.toList ++ '"' :: rest)) =
      some (key.toList, escape value.toList, rest) :=
    oneAttribute?_eq_some_iff.mpr ⟨name, [], _, characters, rfl, inName,
      List.forall_mem_nil _, isValue⟩
  have isBlank : ∀ c ∈ [' '], isTagBlank c = true := List.forall_mem_singleton.mpr rfl
  have read := attributesBehind?_attribute isBlank visible isRead
    (by rw [String.ofList_toList]; exact fresh) (unescape_escape value.toList)
  rw [String.ofList_toList, String.ofList_toList] at read
  rw [writeAttribute_append, characters, ← read]
  rfl

/-- **Written attributes are read** behind those that are known, in their order. -/
theorem attributesBehind?_flatMap {known : Keyed String} {entries : List (String × String)}
    (keys : ∀ entry ∈ entries, IsKey entry.1)
    (distinct : ((known.entries ++ entries).map Prod.fst).Nodup) :
    ∃ attributes, attributesBehind? known (entries.flatMap Element.writeAttribute) =
      some attributes ∧ attributes.entries = known.entries ++ entries := by
  induction entries generalizing known with
  | nil =>
    refine ⟨known, ?_, (List.append_nil _).symm⟩
    rw [attributesBehind?]
    rfl
  | cons entry rest ih =>
    obtain ⟨key, value⟩ := entry
    have fresh : known.contains key = false := by
      rw [← Bool.not_eq_true, Keyed.contains, List.any_eq_true]
      rintro ⟨other, member, same⟩
      rw [List.map_append, List.nodup_append] at distinct
      exact distinct.2.2 other.1 (List.mem_map_of_mem member) key (by simp) (beq_iff_eq.mp same)
    have inserted := Keyed.entries_insert fresh value
    have restKeys : ∀ other ∈ rest, IsKey other.1 :=
      fun other member => keys other (List.mem_cons_of_mem _ member)
    have restDistinct : (((known.insert key value).entries ++ rest).map Prod.fst).Nodup := by
      rw [inserted, List.append_assoc, List.singleton_append]
      exact distinct
    obtain ⟨attributes, read, entries⟩ := ih restKeys restDistinct
    refine ⟨attributes, ?_, ?_⟩
    · rw [List.flatMap_cons, attributesBehind?_write (keys _ List.mem_cons_self) fresh, read]
    · rw [entries, inserted, List.append_assoc, List.singleton_append]

/-- **The attributes of a tag are read** as they were written. -/
theorem attributesBehind?_entries {attributes : Keyed String}
    (keys : ∀ entry ∈ attributes.entries, IsKey entry.1) :
    attributesBehind? Keyed.empty (attributes.entries.flatMap Element.writeAttribute) =
      some attributes := by
  obtain ⟨others, read, same⟩ :=
    @attributesBehind?_flatMap Keyed.empty attributes.entries keys attributes.distinct
  obtain ⟨entries, distinct⟩ := attributes
  obtain ⟨otherEntries, otherDistinct⟩ := others
  obtain rfl : otherEntries = entries := same
  exact read

/-! ### The end of a tag -/

/-- A tag ends in a bracket. -/
theorem tagBody?_eq_some {open? : Option Char} {text body rest : List Char}
    (found : tagBody? open? text = some (body, rest)) : text = body ++ '>' :: rest := by
  fun_induction tagBody? open? text generalizing body with
  | case1 => cases found
  | case2 c text isEnd =>
    obtain ⟨rfl, rfl⟩ := Prod.mk.inj (Option.some.inj found)
    rw [beq_iff_eq.mp isEnd, List.nil_append]
  | case3 c text _ ih =>
    obtain ⟨⟨inner, tail⟩, innerFound, same⟩ := Option.map_eq_some_iff.mp found
    obtain ⟨rfl, rfl⟩ := Prod.mk.inj same
    rw [ih innerFound, List.cons_append]
  | case4 quote c text ih =>
    obtain ⟨⟨inner, tail⟩, innerFound, same⟩ := Option.map_eq_some_iff.mp found
    obtain ⟨rfl, rfl⟩ := Prod.mk.inj same
    rw [ih innerFound, List.cons_append]

/-- A part of a tag that leaves no quote open and does not end the tag. -/
def Balanced (part : List Char) : Prop :=
  ∀ rest, tagBody? none (part ++ rest) =
    (tagBody? none rest).map fun (body, tail) => (part ++ body, tail)

theorem balanced_nil : Balanced [] := by
  intro rest
  rw [List.nil_append]
  exact Option.map_id'.symm

theorem balanced_append {front back : List Char} (first : Balanced front)
    (second : Balanced back) : Balanced (front ++ back) := by
  intro rest
  rw [List.append_assoc, first, second, Option.map_map]
  congr 1
  funext found
  simp

theorem balanced_cons {c : Char} {part : List Char} (noEnd : c ≠ '>') (noQuote : c ≠ '"')
    (noApostrophe : c ≠ '\'') (balanced : Balanced part) : Balanced (c :: part) := by
  intro rest
  have noOpening : ¬ (c == '"' || c == '\'') = true := by simp [noQuote, noApostrophe]
  rw [List.cons_append, tagBody?, if_neg (by simpa using noEnd), if_neg noOpening, balanced,
    Option.map_map]
  rfl

theorem balanced_of_plain {part : List Char} (plain : ∀ c ∈ part, c ∉ ['>', '"', '\'']) :
    Balanced part := by
  induction part with
  | nil => exact balanced_nil
  | cons c rest ih =>
    have noMark : c ≠ '>' ∧ c ≠ '"' ∧ c ≠ '\'' := by simpa using plain c List.mem_cons_self
    refine balanced_cons noMark.1 noMark.2.1 noMark.2.2 (ih fun other member => ?_)
    exact plain other (List.mem_cons_of_mem _ member)

/-- Inside a quote nothing but the same quote has a meaning. -/
theorem tagBody?_quoted {value : List Char} (noQuote : '"' ∉ value) (rest : List Char) :
    tagBody? (some '"') (value ++ '"' :: rest) =
      (tagBody? none rest).map fun (body, tail) => (value ++ '"' :: body, tail) := by
  induction value with
  | nil => rw [List.nil_append, tagBody?]; rfl
  | cons c tail ih =>
    obtain ⟨other, notLater⟩ := not_or.mp (fun member => noQuote (List.mem_cons.mpr member))
    rw [List.cons_append, tagBody?, if_neg (by simpa using Ne.symm other), ih notLater,
      Option.map_map]
    rfl

theorem balanced_quoted {value : List Char} (noQuote : '"' ∉ value) :
    Balanced ('"' :: (value ++ ['"'])) := by
  intro rest
  rw [List.cons_append, tagBody?, if_neg (by decide), if_pos (by decide), List.append_assoc,
    List.singleton_append, tagBody?_quoted noQuote, Option.map_map]
  congr 1
  funext found
  simp

theorem balanced_writeAttribute {entry : String × String} (plain : IsPlain entry.1) :
    Balanced (Element.writeAttribute entry) := by
  obtain ⟨key, value⟩ := entry
  have text := writeAttribute_append key value []
  rw [List.append_nil] at text
  rw [text]
  have valuePart : Balanced ('=' :: '"' :: (escape value.toList ++ ['"'])) :=
    balanced_cons (by decide) (by decide) (by decide)
      (balanced_quoted (not_mem_escape (by decide) value.toList))
  exact balanced_cons (by decide) (by decide) (by decide)
    (balanced_append (balanced_of_plain plain) valuePart)

theorem balanced_attributes {entries : List (String × String)}
    (plain : ∀ entry ∈ entries, IsPlain entry.1) :
    Balanced (entries.flatMap Element.writeAttribute) := by
  induction entries with
  | nil => exact balanced_nil
  | cons entry rest ih =>
    rw [List.flatMap_cons]
    exact balanced_append (balanced_writeAttribute (plain entry List.mem_cons_self))
      (ih fun other member => plain other (List.mem_cons_of_mem _ member))

/-- **A balanced tag ends** at the bracket behind it. -/
theorem tagBody?_of_balanced {body : List Char} (balanced : Balanced body) (rest : List Char) :
    tagBody? none (body ++ '>' :: rest) = some (body, rest) := by
  rw [balanced, tagBody?]
  simp

/-! ### Tags -/

section Tags

variable {name : String} {attributes : Keyed String}

/-- What a written tag holds besides its brackets. -/
def bodyOf (name : String) (attributes : Keyed String) : List Char :=
  name.toList ++ attributes.entries.flatMap Element.writeAttribute

theorem writeTag_eq (name : String) (attributes : Keyed String) :
    Element.writeTag name attributes = '<' :: bodyOf name attributes := by
  rw [Element.writeTag, bodyOf, List.cons_append]

theorem balanced_bodyOf (plain : IsPlain name)
    (keys : ∀ entry ∈ attributes.entries, IsPlain entry.1) : Balanced (bodyOf name attributes) :=
  balanced_append (balanced_of_plain plain) (balanced_attributes keys)

/-- A body ends in the quote of its last attribute, or as the name does. -/
theorem getLast?_bodyOf (name : String) (attributes : Keyed String) :
    (bodyOf name attributes).getLast? =
      if attributes.entries = [] then name.toList.getLast? else some '"' := by
  unfold bodyOf
  rcases List.eq_nil_or_concat attributes.entries with none | ⟨front, last, some⟩
  · rw [none, if_pos rfl, List.flatMap_nil, List.append_nil]
  · rw [some, List.concat_eq_append, if_neg (by simp), List.flatMap_append, List.flatMap_singleton,
      Element.writeAttribute, ← List.append_assoc, ← List.append_assoc, List.getLast?_concat]

theorem IsName.getLast?_bodyOf_ne (isName : IsName name) :
    (bodyOf name attributes).getLast? ≠ some '/' := by
  rw [getLast?_bodyOf]
  split
  · intro isSlash
    exact absurd (isName.characters '/' (List.mem_of_getLast? isSlash)) (by decide)
  · decide

theorem tagParts?_bodyOf (isTag : IsTag name attributes) :
    tagParts? (bodyOf name attributes) = some (name.toList, attributes) := by
  have isRun : ∀ c ∈ name.toList, (!isTagBlank c) = true := by
    intro c member
    rw [isTag.noBlank c member, Bool.not_false]
  have ends : Ends (!isTagBlank ·) (attributes.entries.flatMap Element.writeAttribute) := by
    cases attributes.entries with
    | nil => exact fun c member => nomatch member
    | cons entry rest => exact Text.ends_cons (by decide)
  unfold tagParts? bodyOf
  rw [Text.dropWhile_run isRun ends, Text.takeWhile_run isRun ends,
    attributesBehind?_entries isTag.keys, Option.map_some]

/-- **An opening tag is read** as the name and attributes it was written from, unless it ends as a
single one. -/
theorem tag?_opening (isTag : IsTag name attributes) (balanced : Balanced (bodyOf name attributes))
    (noSlash : (bodyOf name attributes).getLast? ≠ some '/') (rest : List Char) :
    tag? (bodyOf name attributes ++ '>' :: rest) =
      some (.opening name.toList attributes, rest) := by
  unfold tag?
  rw [tagBody?_of_balanced balanced, Option.bind_some]
  simp only [beq_iff_eq, noSlash, if_false, tagParts?_bodyOf isTag, Option.map_some]

/-- **A single tag is read** as the name and attributes it was written from. -/
theorem tag?_single (isTag : IsTag name attributes) (balanced : Balanced (bodyOf name attributes))
    (rest : List Char) :
    tag? (bodyOf name attributes ++ '/' :: '>' :: rest) =
      some (.single name.toList attributes, rest) := by
  have withSlash : Balanced (bodyOf name attributes ++ ['/']) :=
    balanced_append balanced (balanced_cons (by decide) (by decide) (by decide) balanced_nil)
  have body := tagBody?_of_balanced withSlash rest
  rw [List.append_assoc, List.singleton_append] at body
  unfold tag?
  rw [body, Option.bind_some]
  simp only [List.getLast?_concat, beq_self_eq_true, if_true, List.dropLast_concat,
    tagParts?_bodyOf isTag, Option.map_some]

/-- **What is read as a tag**: a part in front of the first bracket outside of quotes, or in front of
the slash before this bracket. -/
theorem tag?_eq_some {text rest : List Char} {piece : Piece}
    (found : tag? text = some (piece, rest)) :
    ∃ part name attributes, tagParts? part = some (name, attributes) ∧
      (piece = .single name attributes ∧ tagBody? none text = some (part ++ ['/'], rest) ∨
        piece = .opening name attributes ∧ part.getLast? ≠ some '/' ∧
          tagBody? none text = some (part, rest)) := by
  obtain ⟨⟨body, tail⟩, isBody, isMade⟩ := Option.bind_eq_some_iff.mp found
  dsimp only at isMade
  split at isMade
  · rename_i isSlash
    obtain ⟨part, rfl⟩ := List.getLast?_eq_some_iff.mp (beq_iff_eq.mp isSlash)
    rw [List.dropLast_concat] at isMade
    obtain ⟨⟨name, attributes⟩, parts, same⟩ := Option.map_eq_some_iff.mp isMade
    cases same
    exact ⟨part, name, attributes, parts, Or.inl ⟨rfl, isBody⟩⟩
  · rename_i noSlash
    obtain ⟨⟨name, attributes⟩, parts, same⟩ := Option.map_eq_some_iff.mp isMade
    cases same
    exact ⟨body, name, attributes, parts, Or.inr ⟨rfl, by simpa using noSlash, isBody⟩⟩

/-- What begins with none of three marks is a tag, and no other part of a document. -/
theorem markup?_eq_tag? {text : List Char} (start : ∀ c ∈ text.head?, c ∉ ['/', '?', '!']) :
    markup? text = tag? text := by
  unfold markup?
  split
  · exact absurd (start '/' rfl) (by decide)
  · exact absurd (start '?' rfl) (by decide)
  · exact absurd (start '!' rfl) (by decide)
  · rfl

/-- What begins with a name or a blank is a tag. -/
theorem markup?_bodyOf (isTag : IsTag name attributes) {tail : List Char}
    (start : bodyOf name attributes = [] → ∀ c ∈ tail.head?, c ∉ ['/', '?', '!']) :
    markup? (bodyOf name attributes ++ tail) = tag? (bodyOf name attributes ++ tail) := by
  refine markup?_eq_tag? fun c isFirst => ?_
  unfold bodyOf at start isFirst
  cases characters : name.toList with
  | cons first rest =>
    rw [characters] at isFirst
    exact isTag.start c (characters ▸ isFirst)
  | nil =>
    rw [characters] at start isFirst
    cases entries : attributes.entries with
    | nil =>
      rw [entries] at start isFirst
      exact start rfl c isFirst
    | cons entry rest =>
      rw [entries] at isFirst
      obtain rfl := Option.mem_some_iff.mp isFirst
      decide

/-- A name has no blanks behind it to be dropped. -/
theorem trimName_of_noBlank {characters : List Char}
    (noBlank : ∀ c ∈ characters, isTagBlank c = false) : trimName characters = characters := by
  have ends : Ends isTagBlank characters.reverse := by
    intro c isLast
    exact noBlank c (List.mem_reverse.mp (List.mem_of_mem_head? isLast))
  unfold trimName
  simp only [Text.dropWhile_of_ends ends, List.reverse_reverse, ite_self]

/-- **A closing tag is read** as the name it was written from, if the name does not end it. -/
theorem markup?_closing (noBlank : ∀ c ∈ name.toList, isTagBlank c = false)
    (noAngle : '>' ∉ name.toList) (rest : List Char) :
    markup? ('/' :: (name.toList ++ '>' :: rest)) = some (.closing name.toList, rest) := by
  have isRun : ∀ c ∈ name.toList, (c != '>') = true := by
    intro c member
    rw [bne_iff_ne]
    rintro rfl
    exact noAngle member
  have ends : Ends (· != '>') ('>' :: rest) := Text.ends_cons (by decide)
  unfold markup? untilAngle
  simp only [Text.takeWhile_run isRun ends, Text.dropWhile_run isRun ends, List.drop_one,
    List.tail_cons, trimName_of_noBlank noBlank]

end Tags

end RuleAtoms.Markup
