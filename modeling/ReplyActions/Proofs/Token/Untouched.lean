import Mathlib.Data.String.Basic
import ReplyActions.Proofs.Token.Remains

/-!
# When a reply stays untouched

Three scanners look for tokens: one asks whether there is an opener at all, one looks for a token
at each position, and one reads the text with a stack of open brackets. They agree on whether a
text holds a token.
-/

namespace ReplyActions

/-- A text shorter than another one, in characters and in bytes, without a blank at either end. -/
structure Shrunk (text kept : String) : Prop where
  length_lt : kept.length < text.length
  utf8ByteSize_lt : kept.utf8ByteSize < text.utf8ByteSize
  ends : Text.NeitherEnd Text.isBlank kept.toList

theorem utf8Len_lt_of_sublist {a b : List Char} (h : a.Sublist b) (hlt : a.length < b.length) :
    String.utf8Len a < String.utf8Len b := by
  induction h with
  | slnil => contradiction
  | @cons a b c h ih =>
    have hle := String.utf8Len_le_of_sublist h
    have hpos := c.utf8Size_pos
    rw [String.utf8Len_cons]
    omega
  | cons_cons c h ih =>
    have hrest := ih (Nat.lt_of_succ_lt_succ hlt)
    rw [String.utf8Len_cons, String.utf8Len_cons]
    omega

namespace Token

theorem not_holdsToken_iff (text : List Char) :
    ¬ HoldsToken text ↔ ∀ rest, rest <:+ text → bodyAt? rest = none := by
  rw [holdsToken_iff]
  constructor
  · intro h rest hs
    rw [← Option.not_isSome_iff_eq_none]
    exact fun hb => h ⟨rest, hs, hb⟩
  · intro h hsome
    obtain ⟨rest, hs, hb⟩ := hsome
    rw [h rest hs] at hb
    contradiction

theorem stripFrom_removes_iff (text : List Char) :
    (stripFrom [] [] false text).2 = true ↔ HoldsToken text := by
  rw [Scan.stripFrom_start]
  exact removed_iff text

theorem stripped?_of_holdsToken {text : List Char} (h : HoldsToken text) :
    stripped? text = some (strip text) := by
  rw [strip_of_holdsToken h]
  simp only [stripped?, hasOpener_of_holdsToken h, Scan.stripFrom_start, removed_of_holdsToken h,
    if_true]

theorem stripped?_of_not_holdsToken {text : List Char} (h : ¬ HoldsToken text) :
    stripped? text = none := by
  have hr : (Scan.finish text).removed = false := by
    rwa [← Bool.not_eq_true, removed_iff]
  simp only [stripped?, Scan.stripFrom_start, hr, ite_self]

theorem shrunk_strip {text : String} (h : HoldsToken text.toList) :
    Shrunk text (String.ofList (strip text.toList)) where
  length_lt := by
    rw [String.length_ofList, ← String.length_toList]
    exact length_strip_lt h
  utf8ByteSize_lt := by
    have hbytes := utf8Len_lt_of_sublist (List.reverse_reverse (strip text.toList) ▸
      (remains_strip text.toList).sublist) (length_strip_lt h)
    rwa [← String.utf8ByteSize_ofList, ← String.utf8ByteSize_ofList, String.ofList_toList] at hbytes
  ends := by
    rw [String.toList_ofList, strip_of_holdsToken h]
    exact Text.neitherEnd_trimBy Text.isBlank _

end Token

namespace Reply

theorem ofText_of_holdsToken {text : String} (h : Token.HoldsToken text.toList) :
    ofText text =
      ⟨Invocation.extract text.toList, String.ofList (Token.strip text.toList), false⟩ := by
  rw [ofText, Token.stripped?_of_holdsToken h]

theorem ofText_of_not_holdsToken {text : String} (h : ¬ Token.HoldsToken text.toList) :
    ofText text = ⟨[], text, true⟩ := by
  rw [ofText, Token.stripped?_of_not_holdsToken h, Token.extract_eq_nil h]

/-- A reply stays untouched, to the last blank, exactly if there is a token at none of its
positions. Otherwise it shrinks, which it does whenever it asks for something. -/
theorem ofText_untouched_iff (text : String) :
    ((ofText text).untouched = true ∧ (ofText text).cleaned = text ↔
        ¬ Token.HoldsToken text.toList) ∧
      (¬ Token.HoldsToken text.toList ↔
        ∀ rest, rest <:+ text.toList → Token.bodyAt? rest = none) ∧
      (Token.HoldsToken text.toList → Token.hasOpener text.toList = true ∧
        (Token.stripFrom [] [] false text.toList).2 = true ∧
        (ofText text).untouched = false ∧ Shrunk text (ofText text).cleaned) ∧
      (Invocation.extract text.toList ≠ [] →
        (Token.stripFrom [] [] false text.toList).2 = true ∧
        (ofText text).untouched = false ∧ Shrunk text (ofText text).cleaned) := by
  have hheld : Token.HoldsToken text.toList →
      (Token.stripFrom [] [] false text.toList).2 = true ∧
      (ofText text).untouched = false ∧ Shrunk text (ofText text).cleaned := by
    intro h
    rw [ofText_of_holdsToken h]
    exact ⟨(Token.stripFrom_removes_iff _).mpr h, rfl, Token.shrunk_strip h⟩
  refine ⟨⟨?_, ?_⟩, Token.not_holdsToken_iff _, ?_, ?_⟩
  · intro hu h
    obtain ⟨hu, -⟩ := hu
    rw [(hheld h).2.1] at hu
    contradiction
  · intro h
    rw [ofText_of_not_holdsToken h]
    exact ⟨rfl, rfl⟩
  · exact fun h => ⟨Token.hasOpener_of_holdsToken h, hheld h⟩
  · intro h
    by_contra hn
    exact h (Token.extract_eq_nil fun ht => hn (hheld ht))

end Reply

end ReplyActions
