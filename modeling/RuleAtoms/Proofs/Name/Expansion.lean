/-
**What an abbreviation stands for is abbreviated the same again.**

Where every namespace ends in a character that no local name holds, a namespace cannot begin another
IRI of a second one and leave a local name of it. So an IRI made of a namespace and a local name has
one abbreviation.

* `Text.splitFirst?_append`: the first cut of a text is the first cut of every longer one;
* `candidate?_append`: no other namespace abbreviates an expanded name;
* `compact?_append`: an expanded name is abbreviated by the prefix that it was expanded with.
-/

import Mathlib.Data.List.Nodup
import RuleAtoms.Proofs.Name.Abbreviation
import RuleAtoms.Proofs.Text.Occurrence
import RuleAtoms.Proofs.Text.Runs

namespace RuleAtoms

/-- **The first cut of a text** is also the first cut when more text follows. No cut comes earlier,
since the separator is no longer than what it was found in. -/
theorem Text.splitFirst?_append {separator text before after : List Char}
    (found : splitFirst? separator text = some (before, after)) (rest : List Char) :
    splitFirst? separator (text ++ rest) = some (before, after ++ rest) := by
  fun_induction splitFirst? separator text generalizing before after with
  | case1 text tail isPrefix =>
    cases found
    have isLonger : separator.isPrefixOf? (text ++ rest) = some (tail ++ rest) := by
      rw [eq_append_of_isPrefixOf? isPrefix, List.append_assoc,
        List.isPrefixOf?_eq_some_iff_append_eq]
    rw [splitFirst?.eq_def, isLonger]
  | case2 => cases found
  | case3 c tail noPrefix ih =>
    obtain ⟨⟨inner, behind⟩, innerFound, same⟩ := Option.map_eq_some_iff.mp found
    cases same
    have notHere : separator.isPrefixOf? ((c :: tail) ++ rest) = none := by
      rw [isPrefixOf?_eq_none_iff]
      intro isPrefix
      have fits : separator.length ≤ (c :: tail).length := by
        have isTail := congrArg List.length (splitFirst?_eq_some innerFound)
        simp only [List.length_append, List.length_cons] at isTail ⊢
        omega
      have isShort := List.prefix_of_prefix_length_le isPrefix (List.prefix_append _ _) fits
      exact isPrefixOf?_eq_none_iff.mp noPrefix isShort
    rw [splitFirst?.eq_def, notHere, List.cons_append]
    simp only [ih innerFound, Option.map_some]

namespace Prefixes

/-- Whether a namespace ends in a character that no local name holds. -/
def isEnded (space : String) : Bool := space.toList.getLast?.any (!isNameChar ·)

/-- Namespaces that differ from each other and can be told from the local names behind them. -/
structure AreSeparated (prefixes : Prefixes) : Prop where
  distinct : (prefixes.entries.map Prod.snd).Nodup
  ended : ∀ binding ∈ prefixes.entries, isEnded binding.2 = true

variable {prefixes : Prefixes} {start space localName : String}

/-- The local name of an expanded name can be told from its namespace. -/
theorem afterLast_append (ended : isEnded space = true)
    (isLocal : isLocalName localName = true) :
    Text.afterLast (!isNameChar ·) (space ++ localName).toList = localName.toList := by
  obtain ⟨c, isLast, other⟩ := (Option.any_eq_true _ _).mp ended
  obtain ⟨front, isSpace⟩ := List.getLast?_eq_some_iff.mp isLast
  rw [String.toList_append, isSpace, List.append_assoc, List.singleton_append]
  refine Text.afterLast_append_cons other fun first member => ?_
  rw [List.all_eq_true.mp isLocal first member, Bool.not_true]

/-- **No other namespace abbreviates an expanded name.** -/
theorem candidate?_append {binding : String × String} {candidate : Candidate}
    (ended : isEnded space = true)
    (bindingEnded : isEnded binding.2 = true)
    (isLocal : isLocalName localName = true)
    (made : candidate? (space ++ localName) binding = some candidate) :
    binding.2 = space ∧ candidate = ⟨binding.1, space, localName⟩ := by
  obtain ⟨other, -, together, isLocalOther, rfl⟩ := candidate?_eq_some_iff.mp made
  have sameLocal : localName = other := by
    rw [← String.toList_inj, ← afterLast_append ended isLocal, ← together,
      afterLast_append bindingEnded isLocalOther]
  subst sameLocal
  rw [← String.toList_inj, String.toList_append, String.toList_append] at together
  have sameSpace := String.toList_inj.mp (List.append_cancel_right together)
  exact ⟨sameSpace, by rw [sameSpace]⟩

/-- **An expanded name is abbreviated by the prefix that it was expanded with.** There is no other
candidate. -/
theorem compact?_append (separated : AreSeparated prefixes)
    (bound : prefixes.find? start = some space) (isLocal : isLocalName localName = true) :
    compact? prefixes (space ++ localName) = some (start ++ ":" ++ localName) := by
  have member := Keyed.find?_eq_some_iff.mp bound
  have ended := separated.ended _ member
  have nonempty : space ≠ "" := by
    rintro rfl
    cases ended
  have made : candidate? (space ++ localName) (start, space) =
      some ⟨start, space, localName⟩ :=
    candidate?_eq_some_iff.mpr ⟨localName, nonempty, rfl, isLocal, rfl⟩
  have only : ∀ candidate ∈ prefixes.entries.filterMap (candidate? (space ++ localName)),
      candidate = ⟨start, space, localName⟩ := by
    intro candidate isCandidate
    obtain ⟨binding, isBinding, madeHere⟩ := List.mem_filterMap.mp isCandidate
    obtain ⟨sameSpace, rfl⟩ :=
      candidate?_append ended (separated.ended _ isBinding) isLocal madeHere
    have same : binding = (start, space) :=
      List.inj_on_of_nodup_map separated.distinct isBinding member sameSpace
    rw [same]
  have isThere : (⟨start, space, localName⟩ : Candidate) ∈
      prefixes.entries.filterMap (candidate? (space ++ localName)) :=
    List.mem_filterMap.mpr ⟨_, member, made⟩
  rw [compact?_eq]
  unfold best?
  split
  · rename_i noCandidate
    rw [noCandidate] at isThere
    cases isThere
  · rename_i first rest candidates
    have taken := only _ (candidates ▸ foldl_longer_mem first rest)
    rw [taken, Option.map_some]

end Prefixes

end RuleAtoms
