import ReplyActions.Proofs.Directive.Validation
import ReplyActions.Proofs.Text.Cleanup
import ReplyActions.Standard.Values

/-!
# What is read from parameters

Texts are the same whether they are cleaned before or after the blanks around them are taken away.
A count that is given is read as it is, or not at all; the default stands in only if there is none.
-/

namespace ReplyActions.Standard
open Number

variable {params : Params} {index : Nat}

/-! ### Texts -/

theorem cleaned_eq_lookupLabel {context : Context} (h : context.settings.maxTextLength.val = 80)
    (text : String) : context.cleaned text = lookupLabel text := by
  rw [Context.cleaned, h]
  rfl

theorem cleanedText_eq {context : Context} {name raw text : String}
    (hraw : params[index]? = some raw) (hblank : Text.trimmed raw ≠ "")
    (h : cleanedText params index name context = .ok text) :
    text = context.cleaned raw := by
  have htext := Params.text?_of_getElem? hraw hblank
  simp only [cleanedText, htext, Option.getD_some, Context.cleaned, Text.cleaned_trimmed] at h
  split at h
  · simp only [reduceCtorEq] at h
  · exact (Except.ok.inj h).symm

theorem holdsAt_of_text? {value : String} (h : params.text? index = some value)
    (condition : String → Bool) : holdsAt params index condition = condition value := by
  simp only [holdsAt, h]

theorem mapKey_of_text? {value : String} (h : params.text? index = some value) :
    mapKey value = Text.lower value := by
  rw [mapKey, Params.trimmed_of_text? h]

theorem keyAt_of_text? {value : String} (h : params.text? index = some value) :
    keyAt params index = mapKey value := by
  simp only [keyAt, h, Option.getD_some]

/-! ### Counts -/

variable {name : String} {default max count : Amount}

/-- A count that is given is the value that is given, if that lies within the bounds. -/
theorem countAt_eq_ok_iff {value : Whole} (h : params.whole? index = some value) :
    countAt params index name default max = .ok count ↔
      (count.val : Int) = value.val ∧ 1 ≤ count.val ∧ count.val ≤ max.val := by
  simp only [countAt, h]
  constructor
  · intro hok
    split at hok
    · next read hread =>
      split at hok
      · next hrange =>
        obtain rfl := Except.ok.inj hok
        exact ⟨Unsigned.val_of_ofInt? hread, hrange⟩
      · contradiction
    · contradiction
  · rintro ⟨hvalue, hrange⟩
    rw [← hvalue, Unsigned.ofInt?_val]
    exact if_pos hrange

theorem one_le_countAt (h : countAt params index name default max = .ok count)
    (hdefault : 1 ≤ default.val) : 1 ≤ count.val := by
  cases hgiven : params.whole? index with
  | none =>
    simp only [countAt, hgiven] at h
    exact Except.ok.inj h ▸ hdefault
  | some value => exact ((countAt_eq_ok_iff hgiven).mp h).2.1

end ReplyActions.Standard
