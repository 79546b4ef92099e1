import ReplyActions.Proofs.Text.Canonical
import ReplyActions.Proofs.Token.Occurrence

/-!
# Tokens written out

Every invocation of a text can be written out as a token again, and a text that consists of such
tokens asks for the same, in the same order.
-/

namespace ReplyActions.Token

/-- Text that can stand between two colons of a token. -/
def IsSegment (text : List Char) : Prop := ∀ c ∈ text, isBracket c = false ∧ c ≠ ':'

theorem isSegment_iff_all (text : List Char) :
    IsSegment text ↔ text.all (fun c => !isBracket c && c != ':') = true := by
  simp only [IsSegment, List.all_eq_true, Bool.and_eq_true, Bool.not_eq_true', bne_iff_ne, ne_eq]

instance (text : List Char) : Decidable (IsSegment text) :=
  decidable_of_iff _ (isSegment_iff_all text).symm

/-! ### Segments and bodies -/

theorem segments_of_not_mem {segment : List Char} (h : ':' ∉ segment) :
    segments segment = [segment] := by
  induction segment with
  | nil => rfl
  | cons c rest ih =>
    have hc : c ≠ ':' := fun he => h (he ▸ List.mem_cons_self)
    simp only [segments, ih fun hm => h (List.mem_cons_of_mem _ hm), if_neg hc]

theorem segments_append_colon {segment : List Char} (h : ':' ∉ segment) (rest : List Char) :
    segments (segment ++ ':' :: rest) = segment :: segments rest := by
  induction segment with
  | nil =>
    simp only [List.nil_append, segments]
    cases hs : segments rest with
    | nil => exact absurd hs (segments_ne_nil rest)
    | cons first others => simp only [if_true]
  | cons c more ih =>
    have hc : c ≠ ':' := fun he => h (he ▸ List.mem_cons_self)
    simp only [List.cons_append, segments, ih fun hm => h (List.mem_cons_of_mem _ hm), if_neg hc]

theorem segments_joined {pieces : List (List Char)} (hne : pieces ≠ [])
    (h : ∀ piece ∈ pieces, ':' ∉ piece) : segments (joined pieces) = pieces := by
  induction pieces with
  | nil => contradiction
  | cons first others ih =>
    have hf := h first List.mem_cons_self
    cases others with
    | nil => exact segments_of_not_mem hf
    | cons second more =>
      have hr := ih (List.cons_ne_nil _ _) fun piece hp => h piece (List.mem_cons_of_mem _ hp)
      simp only [joined] at hr ⊢
      rw [segments_append_colon hf, hr]

theorem mem_of_mem_segments {body segment : List Char} {c : Char} (hs : segment ∈ segments body)
    (hc : c ∈ segment) : c ∈ body ∧ c ≠ ':' := by
  induction body generalizing segment with
  | nil =>
    rw [segments, List.mem_singleton] at hs
    exact absurd (hs ▸ hc) List.not_mem_nil
  | cons d rest ih =>
    simp only [segments] at hs
    cases hr : segments rest with
    | nil => exact absurd hr (segments_ne_nil rest)
    | cons first others =>
      rw [hr] at hs ih
      have tail : ∀ piece ∈ first :: others, c ∈ piece → c ∈ d :: rest ∧ c ≠ ':' :=
        fun piece hp hm => ⟨List.mem_cons_of_mem _ (ih hp hm).1, (ih hp hm).2⟩
      simp only at hs
      split at hs
      · rcases List.mem_cons.mp hs with rfl | hs
        · exact absurd hc List.not_mem_nil
        · exact tail segment hs hc
      · next hd =>
        rcases List.mem_cons.mp hs with rfl | hs
        · rcases List.mem_cons.mp hc with rfl | hc
          · exact ⟨List.mem_cons_self, hd⟩
          · exact tail first List.mem_cons_self hc
        · exact tail segment (List.mem_cons_of_mem _ hs) hc

theorem mem_joined {pieces : List (List Char)} {c : Char} (h : c ∈ joined pieces) :
    c = ':' ∨ ∃ piece ∈ pieces, c ∈ piece := by
  induction pieces with
  | nil => exact absurd h List.not_mem_nil
  | cons first others ih =>
    cases others with
    | nil => exact Or.inr ⟨first, List.mem_cons_self, h⟩
    | cons second more =>
      simp only [joined] at h
      rcases List.mem_append.mp h with h | h
      · exact Or.inr ⟨first, List.mem_cons_self, h⟩
      · rcases List.mem_cons.mp h with h | h
        · exact Or.inl h
        · rcases ih h with h | ⟨piece, hp, hm⟩
          · exact Or.inl h
          · exact Or.inr ⟨piece, List.mem_cons_of_mem _ hp, hm⟩

theorem isPlain_joined {pieces : List (List Char)} (h : ∀ piece ∈ pieces, IsSegment piece) :
    IsPlain (joined pieces) := by
  intro c hc
  rcases mem_joined hc with rfl | ⟨piece, hp, hm⟩
  · decide
  · exact (h piece hp c hm).1

end ReplyActions.Token

namespace ReplyActions.Invocation
open Token

def request (i : Invocation) : String × List String := (i.id, i.params)

/-- The invocation can be written as a token. -/
structure Writable (i : Invocation) : Prop where
  named : i.id ≠ ""
  canonical : canonicalId i.id = i.id
  id_segment : IsSegment i.id.toList
  param_segment : ∀ param ∈ i.params, IsSegment param.toList

/-! ### What a text asks for can be written -/

theorem isSegment_canonicalId {segment : List Char} (h : IsSegment segment) :
    IsSegment (canonicalId (String.ofList segment)).toList := by
  intro c hc
  rw [toList_canonicalId, String.toList_ofList] at hc
  obtain ⟨d, hd, rfl⟩ := List.mem_map.mp hc
  obtain ⟨hb, hne⟩ := h d (Text.mem_of_mem_trim hd)
  obtain ⟨ho, hcl⟩ := (isBracket_eq_false_iff d).mp hb
  refine ⟨(isBracket_eq_false_iff _).mpr ⟨?_, ?_⟩, ?_⟩
  · exact fun h => ho ((Text.upperChar_eq_iff (by decide)).mp h)
  · exact fun h => hcl ((Text.upperChar_eq_iff (by decide)).mp h)
  · exact fun h => hne ((Text.upperChar_eq_iff (by decide)).mp h)

theorem writable_of_requestAt? {text : List Char} {i : Invocation}
    (h : requestAt? text = some i.request) : i.Writable := by
  simp only [requestAt?] at h
  split at h
  · contradiction
  · next body hb =>
    obtain ⟨word, after, -, -, hplain⟩ := (bodyAt?_eq_some_iff text body).mp hb
    have hsegment : ∀ segment ∈ segments body, IsSegment segment := fun segment hs c hc =>
      ⟨hplain c (mem_of_mem_segments hs hc).1, (mem_of_mem_segments hs hc).2⟩
    split at h
    · contradiction
    · next first params hs =>
      rw [hs] at hsegment
      split at h
      · contradiction
      · next hne =>
        injection h with h
        obtain ⟨hid, hparams⟩ := Prod.mk.inj h
        refine ⟨hid ▸ hne, ?_, ?_, ?_⟩
        · rw [← hid, canonicalId_canonicalId]
        · rw [← hid]
          exact isSegment_canonicalId (hsegment first List.mem_cons_self)
        · rw [← hparams]
          intro param hp
          obtain ⟨segment, hm, rfl⟩ := List.mem_map.mp hp
          rw [String.toList_ofList]
          exact hsegment segment (List.mem_cons_of_mem _ hm)

theorem writable_of_mem_extractFrom {text : List Char} {offset ordinal : Nat} {i : Invocation}
    (h : i ∈ extractFrom offset ordinal text) : i.Writable := by
  induction text generalizing offset ordinal with
  | nil => exact absurd h List.not_mem_nil
  | cons c rest ih =>
    simp only [extractFrom] at h
    split at h
    · next hr =>
      rcases List.mem_cons.mp h with rfl | h
      · exact writable_of_requestAt? hr
      · exact ih h
    · exact ih h

/-- The search for an opener only saves work. -/
theorem extract_eq_extractFrom (text : List Char) : extract text = extractFrom 0 0 text := by
  simp only [extract]
  split
  · rfl
  · next ho =>
    have hnone : ¬ HoldsToken text := by
      intro ht
      obtain ⟨rest, hs, hb⟩ := (holdsToken_iff text).mp ht
      obtain ⟨body, hb⟩ := Option.isSome_iff_exists.mp hb
      obtain ⟨word, after, rfl, hw, -⟩ := (bodyAt?_eq_some_iff rest body).mp hb
      have hopen : '[' :: (word ++ body ++ ']' :: after) <:+ text := by simpa using hs
      refine ho (hasOpener_of_suffix hopen ?_)
      exact (startsWithKeyword_iff _).mpr ⟨word, body ++ ']' :: after, by simp, hw⟩
    exact (extractFrom_eq_nil hnone 0 0).symm

theorem writable_of_mem_extract {text : List Char} {i : Invocation} (h : i ∈ extract text) :
    i.Writable := by
  rw [extract_eq_extractFrom] at h
  exact writable_of_mem_extractFrom h

/-! ### What is written is asked for -/

theorem isPlain_body {i : Invocation} (h : i.Writable) :
    IsPlain (joined (i.id.toList :: i.params.map String.toList)) := by
  refine isPlain_joined fun piece hp => ?_
  rcases List.mem_cons.mp hp with rfl | hp
  · exact h.id_segment
  · obtain ⟨param, hm, rfl⟩ := List.mem_map.mp hp
    exact h.param_segment param hm

theorem requestAt?_token {i : Invocation} (h : i.Writable) (rest : List Char) :
    requestAt? (i.token ++ rest) = some i.request := by
  have hbody : bodyAt? (i.token ++ rest) =
      some (joined (i.id.toList :: i.params.map String.toList)) :=
    (bodyAt?_eq_some_iff _ _).mpr
      ⟨"ACTION:".toList, rest, by simp [token], by decide, isPlain_body h⟩
  have hsegments : segments (joined (i.id.toList :: i.params.map String.toList)) =
      i.id.toList :: i.params.map String.toList := by
    refine segments_joined (List.cons_ne_nil _ _) fun piece hp hm => ?_
    rcases List.mem_cons.mp hp with rfl | hp
    · exact (h.id_segment _ hm).2 rfl
    · obtain ⟨param, hparam, rfl⟩ := List.mem_map.mp hp
      exact (h.param_segment param hparam _ hm).2 rfl
  have hparams : (i.params.map String.toList).map String.ofList = i.params := by
    rw [List.map_map]
    exact (List.map_congr_left fun param _ => String.ofList_toList).trans (List.map_id _)
  simp only [requestAt?, hbody, hsegments, String.ofList_toList, h.canonical, if_neg h.named,
    hparams, request]

theorem extractFrom_skip {front : List Char} (h : '[' ∉ front) (rest : List Char)
    (offset ordinal : Nat) :
    extractFrom offset ordinal (front ++ rest) =
      extractFrom (offset + front.length) ordinal rest := by
  induction front generalizing offset with
  | nil => rfl
  | cons c front ih =>
    have hc : c ≠ '[' := fun he => h (he ▸ List.mem_cons_self)
    have hnone : requestAt? (c :: (front ++ rest)) = none := by
      have hb : bodyAt? (c :: (front ++ rest)) = none := by
        rw [Option.eq_none_iff_forall_ne_some]
        intro body hb
        obtain ⟨word, after, ht, -, -⟩ := (bodyAt?_eq_some_iff _ _).mp hb
        exact hc (List.cons.inj ht).1
      simp only [requestAt?, hb]
    simp only [List.cons_append, extractFrom, hnone]
    rw [ih fun hm => h (List.mem_cons_of_mem _ hm), List.length_cons]
    congr 1
    omega

theorem ofText_invocations (text : String) :
    (Reply.ofText text).invocations = extract text.toList := by
  simp only [Reply.ofText]
  split <;> rfl

/-- The text that consists of the tokens of invocations. -/
def written (invocations : List Invocation) : String := String.ofList (invocations.flatMap token)

theorem requests_extractFrom_tokens {invocations : List Invocation}
    (h : ∀ i ∈ invocations, i.Writable) (offset ordinal : Nat) :
    (extractFrom offset ordinal (invocations.flatMap token)).map request =
      invocations.map request := by
  induction invocations generalizing offset ordinal with
  | nil => rfl
  | cons i rest ih =>
    have hi := h i List.mem_cons_self
    have hrest := ih fun other ho => h other (List.mem_cons_of_mem _ ho)
    obtain ⟨tail, htail⟩ : ∃ tail, i.token = '[' :: tail := ⟨_, rfl⟩
    have hopen : '[' ∉ tail := by
      have ht : tail = "ACTION:".toList ++
          joined (i.id.toList :: i.params.map String.toList) ++ [']'] :=
        (List.cons.inj htail).2.symm
      have hword : IsPlain "ACTION:".toList := isPlain_of_lower_eq_keyword (by decide)
      rw [ht]
      intro hm
      rcases List.mem_append.mp hm with hm | hm
      · exact absurd (isPlain_append.mpr ⟨hword, isPlain_body hi⟩ _ hm) (by decide)
      · exact absurd hm (by decide)
    have hrequest := requestAt?_token hi (rest.flatMap token)
    rw [htail] at hrequest
    rw [List.flatMap_cons, htail, List.cons_append]
    rw [List.cons_append] at hrequest
    simp only [extractFrom, hrequest, request, List.map_cons]
    rw [extractFrom_skip hopen]
    exact congrArg _ (hrest _ _)

theorem requests_written {invocations : List Invocation} (h : ∀ i ∈ invocations, i.Writable) :
    (Reply.ofText (written invocations)).invocations.map request = invocations.map request := by
  rw [ofText_invocations, written, String.toList_ofList, extract_eq_extractFrom]
  exact requests_extractFrom_tokens h 0 0

end ReplyActions.Invocation
