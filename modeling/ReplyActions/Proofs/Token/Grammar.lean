import ReplyActions.Proofs.SortedMap
import ReplyActions.Proofs.Token.Written

/-!
# The grammar of tokens

The invocations of a text are exactly the tokens in it that name a directive, from left to right.
What a token is, and where it stands, is said here on the text alone, without a scanner. Whatever
list meets that description is the list of invocations.
-/

namespace ReplyActions.Token

/-- A token that names a directive stands in the text behind `offset` characters: the opener in
whatever case, a first segment that is not blank, the other segments with a colon in front of
each, and the closing bracket, which is the first bracket after the opener. -/
def Occurs (text : List Char) (offset : Nat) (first : List Char) (others : List (List Char)) :
    Prop :=
  ∃ before word after,
    text = before ++ '[' :: (word ++ (first ++ others.flatMap (':' :: ·)) ++ ']' :: after) ∧
      before.length = offset ∧ word.map Text.lowerChar = "action:".toList ∧
      (∃ c ∈ first, Text.isBlank c = false) ∧ ∀ segment ∈ first :: others, IsSegment segment

/-! ### Segments with their colons -/

theorem joined_cons (first : List Char) (others : List (List Char)) :
    joined (first :: others) = first ++ others.flatMap (':' :: ·) := by
  induction others generalizing first with
  | nil => simp only [joined, List.flatMap_nil, List.append_nil]
  | cons second more ih =>
    rw [List.flatMap_cons, List.cons_append, ← ih second]
    rfl

theorem isSegment_of_mem_segments {body segment : List Char} (hbody : IsPlain body)
    (hs : segment ∈ segments body) : IsSegment segment := by
  intro c hc
  obtain ⟨hm, hne⟩ := mem_of_mem_segments hs hc
  exact ⟨hbody c hm, hne⟩

theorem segments_eq_iff {body first : List Char} {others : List (List Char)} :
    IsPlain body ∧ segments body = first :: others ↔
      body = first ++ others.flatMap (':' :: ·) ∧
        ∀ segment ∈ first :: others, IsSegment segment := by
  constructor
  · rintro ⟨hplain, hs⟩
    refine ⟨?_, fun segment hm => isSegment_of_mem_segments hplain (hs ▸ hm)⟩
    rw [← joined_cons, ← hs, joined_segments]
  · rintro ⟨rfl, hsegment⟩
    rw [← joined_cons]
    refine ⟨isPlain_joined hsegment, segments_joined (List.cons_ne_nil _ _) fun piece hp hm => ?_⟩
    exact (hsegment piece hp _ hm).2 rfl

/-! ### Places -/

theorem occurs_iff {text first : List Char} {others : List (List Char)} {offset : Nat} :
    Occurs text offset first others ↔
      ∃ before rest, text = before ++ rest ∧ before.length = offset ∧
        Occurs rest 0 first others := by
  constructor
  · rintro ⟨before, word, after, ht, hl, hrest⟩
    exact ⟨before, _, ht, hl, [], word, after, rfl, rfl, hrest⟩
  · rintro ⟨before, rest, rfl, hl, front, word, after, ht, hf, hrest⟩
    rw [List.length_eq_zero_iff] at hf
    subst hf
    exact ⟨before, word, after, by rw [ht, List.nil_append], hl, hrest⟩

theorem hasOpener_of_occurs {text first : List Char} {others : List (List Char)} {offset : Nat}
    (h : Occurs text offset first others) : hasOpener text = true := by
  obtain ⟨before, word, after, rfl, -, hw, -⟩ := h
  refine hasOpener_of_suffix (List.suffix_append _ _) ((startsWithKeyword_iff _).mpr ?_)
  exact ⟨word, _, List.append_assoc .., hw⟩

end ReplyActions.Token

namespace ReplyActions.Invocation
open Token

/-! ### One position -/

theorem requestAt?_eq_some_iff (text : List Char) (request : String × List String) :
    requestAt? text = some request ↔ ∃ first others, Occurs text 0 first others ∧
      request = (canonicalId (String.ofList first), others.map String.ofList) := by
  constructor
  · intro h
    simp only [requestAt?] at h
    split at h
    · contradiction
    · next body hb =>
      obtain ⟨word, after, rfl, hw, hplain⟩ := (bodyAt?_eq_some_iff text body).mp hb
      split at h
      · contradiction
      · next first others hs =>
        obtain ⟨hbody, hsegment⟩ := segments_eq_iff.mp ⟨hplain, hs⟩
        split at h
        · contradiction
        · next hne =>
          injection h with h
          have hnamed := (canonicalId_ne_empty_iff first).mp hne
          refine ⟨first, others, ⟨[], word, after, ?_, rfl, hw, hnamed, hsegment⟩, h.symm⟩
          rw [← hbody]
          rfl
  · rintro ⟨first, others, ⟨before, word, after, rfl, hl, hw, hnamed, hsegment⟩, rfl⟩
    rw [List.length_eq_zero_iff] at hl
    subst hl
    obtain ⟨hplain, hs⟩ := segments_eq_iff.mpr ⟨rfl, hsegment⟩
    have hb := (bodyAt?_eq_some_iff _ _).mpr ⟨word, after, rfl, hw, hplain⟩
    have hne := (canonicalId_ne_empty_iff first).mpr hnamed
    rw [List.cons_append] at hb
    simp only [requestAt?, List.nil_append, hb, hs, if_neg hne]

/-! ### All positions -/

theorem mem_extractFrom_iff (text : List Char) (offset ordinal place : Nat)
    (request : String × List String) :
    (∃ i ∈ extractFrom offset ordinal text, i.offset = place ∧ i.request = request) ↔
      ∃ before rest, text = before ++ rest ∧ offset + before.length = place ∧
        requestAt? rest = some request := by
  induction text generalizing offset ordinal with
  | nil =>
    constructor
    · rintro ⟨i, hi, -⟩
      exact absurd hi List.not_mem_nil
    · rintro ⟨before, rest, hnil, -, hr⟩
      obtain ⟨-, rfl⟩ := List.append_eq_nil_iff.mp hnil.symm
      contradiction
  | cons c text ih =>
    -- the token stands at the first position or behind it
    have hsplit : (∃ before rest, c :: text = before ++ rest ∧ offset + before.length = place ∧
        requestAt? rest = some request) ↔
        (offset = place ∧ requestAt? (c :: text) = some request) ∨
          ∃ before rest, text = before ++ rest ∧ offset + 1 + before.length = place ∧
            requestAt? rest = some request := by
      constructor
      · rintro ⟨before, rest, ht, hp, hr⟩
        cases before with
        | nil => exact Or.inl ⟨hp, by rw [ht]; exact hr⟩
        | cons d before =>
          obtain ⟨rfl, htext⟩ := List.cons.inj ht
          rw [List.length_cons] at hp
          exact Or.inr ⟨before, rest, htext, by omega, hr⟩
      · rintro (⟨hp, hr⟩ | ⟨before, rest, rfl, hp, hr⟩)
        · exact ⟨[], c :: text, rfl, hp, hr⟩
        · refine ⟨c :: before, rest, rfl, ?_, hr⟩
          rw [List.length_cons]
          omega
    rw [hsplit]
    simp only [extractFrom]
    split
    · next id params hr =>
      rw [← ih (offset + 1) (ordinal + 1), hr]
      simp only [List.mem_cons, or_and_right, exists_or, exists_eq_left, Invocation.request,
        Option.some.injEq]
    · next hr =>
      rw [← ih (offset + 1) ordinal, hr]
      simp only [reduceCtorEq, and_false, false_or]

theorem le_offset_of_mem_extractFrom {text : List Char} {offset ordinal : Nat} {i : Invocation}
    (h : i ∈ extractFrom offset ordinal text) : offset ≤ i.offset := by
  obtain ⟨before, -, -, hp, -⟩ :=
    (mem_extractFrom_iff text offset ordinal i.offset i.request).mp ⟨i, h, rfl, rfl⟩
  omega

theorem pairwise_extractFrom (text : List Char) (offset ordinal : Nat) :
    (extractFrom offset ordinal text).Pairwise fun earlier later =>
      earlier.offset < later.offset := by
  induction text generalizing offset ordinal with
  | nil => exact List.Pairwise.nil
  | cons c text ih =>
    simp only [extractFrom]
    split
    · exact (ih _ _).cons fun later hl => le_offset_of_mem_extractFrom hl
    · exact ih _ _

theorem ordinals_extractFrom (text : List Char) (offset ordinal : Nat) :
    (extractFrom offset ordinal text).map (·.ordinal) =
      List.range' ordinal (extractFrom offset ordinal text).length := by
  induction text generalizing offset ordinal with
  | nil => rfl
  | cons c text ih =>
    simp only [extractFrom]
    split
    · rw [List.map_cons, List.length_cons, List.range'_succ, ih]
    · exact ih _ _

/-! ### The list of all tokens -/

/-- The invocations are the tokens of the text that name a directive: all of them, each one once,
from left to right, and numbered from zero. -/
structure Lists (text : List Char) (invocations : List Invocation) : Prop where
  mem_iff : ∀ offset request,
    (∃ i ∈ invocations, i.offset = offset ∧ i.request = request) ↔
      ∃ first others, Occurs text offset first others ∧
        request = (canonicalId (String.ofList first), others.map String.ofList)
  increasing : invocations.Pairwise fun earlier later => earlier.offset < later.offset
  numbered : invocations.map (·.ordinal) = List.range invocations.length

theorem lists_extract (text : List Char) : Lists text (extract text) := by
  rw [extract_eq_extractFrom]
  refine ⟨fun offset request => ?_, pairwise_extractFrom text 0 0, ?_⟩
  · rw [mem_extractFrom_iff]
    simp only [Nat.zero_add, requestAt?_eq_some_iff]
    constructor
    · rintro ⟨before, rest, ht, hl, first, others, ho, hr⟩
      exact ⟨first, others, occurs_iff.mpr ⟨before, rest, ht, hl, ho⟩, hr⟩
    · rintro ⟨first, others, ho, hr⟩
      obtain ⟨before, rest, ht, hl, ho⟩ := occurs_iff.mp ho
      exact ⟨before, rest, ht, hl, first, others, ho, hr⟩
  · rw [ordinals_extractFrom, List.range_eq_range']

def placed (i : Invocation) : Nat × String × List String := (i.offset, i.request)

theorem Lists.placed_eq {text : List Char} {a b : List Invocation} (ha : Lists text a)
    (hb : Lists text b) : a.map placed = b.map placed := by
  have hmem : ∀ entry, entry ∈ a.map placed ↔ entry ∈ b.map placed := by
    rintro ⟨offset, request⟩
    have hplace : ∀ invocations : List Invocation, (offset, request) ∈ invocations.map placed ↔
        ∃ i ∈ invocations, i.offset = offset ∧ i.request = request := fun invocations => by
      simp only [List.mem_map, placed, Prod.mk.injEq]
    rw [hplace, hplace, ha.mem_iff, hb.mem_iff]
  have hsorted : ∀ invocations, Lists text invocations →
      (invocations.map placed).Pairwise fun x y => x.1 < y.1 := fun invocations h =>
    List.pairwise_map.mpr h.increasing
  exact eq_of_mem_iff_of_pairwise (fun x y hlt => Nat.lt_asymm hlt) (hsorted a ha) (hsorted b hb)
    hmem

theorem Lists.unique {text : List Char} {a b : List Invocation} (ha : Lists text a)
    (hb : Lists text b) : a = b := by
  have hplaced := ha.placed_eq hb
  have hlength : a.length = b.length := by
    rw [← List.length_map placed, hplaced, List.length_map]
  have hordinals : a.map (·.ordinal) = b.map (·.ordinal) := by
    rw [ha.numbered, hb.numbered, hlength]
  refine List.ext_getElem hlength fun n hna hnb => ?_
  have hp : placed a[n] = placed b[n] := by
    have h := congrArg (·[n]?) hplaced
    simpa only [List.getElem?_map, List.getElem?_eq_getElem hna, List.getElem?_eq_getElem hnb,
      Option.map_some, Option.some.injEq] using h
  have ho : a[n].ordinal = b[n].ordinal := by
    have h := congrArg (·[n]?) hordinals
    simpa only [List.getElem?_map, List.getElem?_eq_getElem hna, List.getElem?_eq_getElem hnb,
      Option.map_some, Option.some.injEq] using h
  cases ha' : a[n]
  cases hb' : b[n]
  rw [ha', hb'] at hp ho
  simp only [placed, request, Prod.mk.injEq] at hp ho
  obtain ⟨rfl, rfl, rfl⟩ := hp
  rw [ho]

/-- A list is that of the invocations of a text if and only if it lists the tokens of the text, and
no token escapes the search for an opener. -/
theorem lists_iff_eq_extract (text : List Char) :
    (∀ invocations, Lists text invocations ↔ invocations = extract text) ∧
      ∀ offset first others, Occurs text offset first others → hasOpener text = true := by
  refine ⟨fun invocations => ⟨fun h => h.unique (lists_extract text), ?_⟩,
    fun offset first others ho => hasOpener_of_occurs ho⟩
  rintro rfl
  exact lists_extract text

-- an opener that another bracket follows is no token, nor is one with a blank first segment
example : extract "[ACTION:a [action: b :c:] [Action: :d]".toList =
    [⟨"B", ["c", ""], 10, 0⟩] := by
  decide +kernel

end ReplyActions.Invocation
