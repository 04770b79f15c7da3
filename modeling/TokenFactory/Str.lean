import Mathlib.Data.List.Basic
import Mathlib.Data.List.Forall2
import Mathlib.Data.String.Basic

/-!
# String primitives

The two string operations `validate_denom` applies: `str::split('/')` and
`str::eq_ignore_ascii_case`. Rust's `split` with a character pattern is Lean's `String.split`
with that character's test: both return the pieces between successive separators, empty pieces
included, so a string with `k` separators has `k + 1` pieces. Splitting and joining with `/`
invert each other on separator-free pieces. ASCII lowering sends a lowercase ASCII letter's two
spellings, and nothing else, to that letter, so a word of such letters is matched by exactly its
per-letter case variants.
-/

set_option autoImplicit false

namespace TokenFactory

/-- `str::eq_ignore_ascii_case`: the same characters after ASCII lowercasing. Rust compares the
UTF-8 bytes; ASCII lowercasing leaves every byte of a multi-byte character unchanged, so the byte
test and the character test agree. -/
def eqIgnoreAsciiCase (a b : String) : Bool :=
  a.data.map Char.toLower == b.data.map Char.toLower

example : eqIgnoreAsciiCase "FACTORY" "factory" = true := by decide

/-!
## ASCII case

`Char.toLower` and `Char.toUpper` move only the ASCII letters, by 32 code points; the facts below
are about code points and close by `omega`.
-/

private theorem char_eq_iff_toNat {c d : Char} : c = d ↔ c.toNat = d.toNat :=
  ⟨congrArg Char.toNat, fun same => by rw [← Char.ofNat_toNat c, same, Char.ofNat_toNat]⟩

private theorem toNat_ofNat_ascii {n : Nat} (ascii : n < 128) : (Char.ofNat n).toNat = n := by
  have valid : n.isValidChar := Or.inl (by omega)
  simp only [Char.ofNat, valid, dite_true]
  rfl

theorem toNat_toLower (c : Char) :
    c.toLower.toNat = if 65 ≤ c.toNat ∧ c.toNat ≤ 90 then c.toNat + 32 else c.toNat := by
  unfold Char.toLower
  split
  · rw [if_pos ‹_›, toNat_ofNat_ascii (by omega)]
  · rw [if_neg ‹_›]

theorem toNat_toUpper (c : Char) :
    c.toUpper.toNat = if 97 ≤ c.toNat ∧ c.toNat ≤ 122 then c.toNat - 32 else c.toNat := by
  unfold Char.toUpper
  split
  · rw [if_pos ‹_›, toNat_ofNat_ascii (by omega)]
  · rw [if_neg ‹_›]

private theorem isLower_iff (l : Char) : l.isLower = true ↔ 97 ≤ l.toNat ∧ l.toNat ≤ 122 := by
  simp only [Char.isLower, Bool.and_eq_true, decide_eq_true_eq]
  rfl

theorem toLower_eq_iff {c l : Char} (lower : l.isLower = true) :
    c.toLower = l ↔ c = l ∨ c = l.toUpper := by
  rw [isLower_iff] at lower
  simp only [char_eq_iff_toNat, toNat_toLower, toNat_toUpper, if_pos lower]
  split <;> omega

theorem eqIgnoreAsciiCase_iff_forall₂ {word : String} (lower : ∀ l ∈ word.data, l.isLower = true)
    (s : String) :
    eqIgnoreAsciiCase s word = true ↔
      List.Forall₂ (fun c l => c = l ∨ c = l.toUpper) s.data word.data := by
  have fixed : word.data.map Char.toLower = word.data := by
    conv_rhs => rw [← List.map_id word.data]
    exact List.map_congr_left fun l member => (toLower_eq_iff (lower l member)).mpr (.inl rfl)
  rw [eqIgnoreAsciiCase, beq_iff_eq, fixed, ← List.forall₂_eq_eq_eq, List.forall₂_map_left_iff,
    List.forall₂_iff_zip, List.forall₂_iff_zip]
  refine and_congr_right fun _ => ⟨fun lowered _ _ member => ?_, fun spelled _ _ member => ?_⟩
  · exact (toLower_eq_iff (lower _ (List.of_mem_zip member).2)).mp (lowered member)
  · exact (toLower_eq_iff (lower _ (List.of_mem_zip member).2)).mpr (spelled member)

/-- `denom` reads `head/creator/subdenom`, with no `/` inside any of the three segments. -/
structure DenomSegments (denom head creator subdenom : String) : Prop where
  eq_join : denom = head ++ "/" ++ creator ++ "/" ++ subdenom
  head_free : '/' ∉ head.data
  creator_free : '/' ∉ creator.data
  subdenom_free : '/' ∉ subdenom.data

/-!
## Pieces of a split
-/

private theorem not_mem_of_mem_splitOnP {α : Type} {p : α → Bool} :
    ∀ {l part : List α}, part ∈ l.splitOnP p → ∀ x ∈ part, p x = false
  | [], part, member => by simp_all
  | y :: ys, part, member => by
    cases separator : p y with
    | true =>
      simp only [List.splitOnP_cons, separator, if_true, List.mem_cons] at member
      rcases member with rfl | member
      · simp
      · exact not_mem_of_mem_splitOnP member
    | false =>
      obtain ⟨first, rest, split⟩ := List.exists_cons_of_ne_nil (List.splitOnP_ne_nil p ys)
      have firstMember : first ∈ ys.splitOnP p := by simp [split]
      simp only [List.splitOnP_cons, separator, split, Bool.false_eq_true, if_false,
        List.modifyHead_cons, List.mem_cons] at member
      rcases member with rfl | member
      · simpa [separator] using not_mem_of_mem_splitOnP firstMember
      · have restMember : part ∈ ys.splitOnP p := by simp [split, member]
        exact not_mem_of_mem_splitOnP restMember

private theorem length_splitOnP {α : Type} (p : α → Bool) (l : List α) :
    (l.splitOnP p).length = l.countP p + 1 := by
  induction l with
  | nil => rfl
  | cons x xs ih =>
    obtain ⟨first, rest, split⟩ := List.exists_cons_of_ne_nil (List.splitOnP_ne_nil p xs)
    cases separator : p x <;> simp_all [List.splitOnP_cons, List.countP_cons]

theorem split_slash (s : String) : s.split (· == '/') = (s.data.splitOn '/').map String.mk := by
  rw [String.split_of_valid]; rfl

theorem length_split_slash (s : String) : (s.split (· == '/')).length = s.data.count '/' + 1 := by
  rw [split_slash, List.length_map, List.splitOn, length_splitOnP, List.count]

theorem slash_not_mem_of_mem_split {s piece : String} (member : piece ∈ s.split (· == '/')) :
    '/' ∉ piece.data := by
  rw [split_slash, List.mem_map] at member
  obtain ⟨part, partMember, rfl⟩ := member
  intro slash
  simpa using not_mem_of_mem_splitOnP partMember '/' slash

theorem split_slash_eq_three_iff {s head creator subdenom : String} :
    s.split (· == '/') = [head, creator, subdenom] ↔ DenomSegments s head creator subdenom := by
  constructor
  · intro split
    have joined : ['/'].intercalate (s.data.splitOn '/') = s.data := List.intercalate_splitOn s.data '/'
    have pieces : s.data.splitOn '/' = [head.data, creator.data, subdenom.data] := by
      have mapped := congrArg (List.map String.data) split
      rwa [split_slash, List.map_map, show String.data ∘ String.mk = id from rfl,
        List.map_id] at mapped
    have free : ∀ piece ∈ [head, creator, subdenom], '/' ∉ piece.data :=
      fun _ member => slash_not_mem_of_mem_split (split ▸ member)
    refine ⟨?_, free _ (by simp), free _ (by simp), free _ (by simp)⟩
    rw [pieces] at joined
    simpa [String.ext_iff, List.intercalate] using joined.symm
  · rintro ⟨rfl, headFree, creatorFree, subdenomFree⟩
    have pieces : (['/'].intercalate [head.data, creator.data, subdenom.data]).splitOn '/' =
        [head.data, creator.data, subdenom.data] :=
      List.splitOn_intercalate _ '/' (by simp_all) (by simp)
    rw [split_slash]
    simpa [List.intercalate] using congrArg (List.map String.mk) pieces

theorem count_slash_eq_two_iff {s : String} :
    s.data.count '/' = 2 ↔ ∃ head creator subdenom, DenomSegments s head creator subdenom := by
  have three : s.data.count '/' = 2 ↔ (s.split (· == '/')).length = 3 := by
    rw [length_split_slash]; omega
  rw [three]
  constructor
  · intro three
    obtain ⟨head, creator, subdenom, split⟩ := List.length_eq_three.mp three
    exact ⟨head, creator, subdenom, split_slash_eq_three_iff.mp split⟩
  · rintro ⟨head, creator, subdenom, segments⟩
    rw [split_slash_eq_three_iff.mpr segments]
    rfl

theorem DenomSegments.unique {s head creator subdenom head' creator' subdenom' : String}
    (segments : DenomSegments s head creator subdenom)
    (segments' : DenomSegments s head' creator' subdenom') :
    head = head' ∧ creator = creator' ∧ subdenom = subdenom' := by
  have same := (split_slash_eq_three_iff.mpr segments).symm.trans
    (split_slash_eq_three_iff.mpr segments')
  simpa using same

end TokenFactory
