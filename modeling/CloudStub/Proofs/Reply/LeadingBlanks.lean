import CloudStub.Proofs.Text.Utf8
import CloudStub.Reply.Sniff
import Mathlib.Data.List.TakeWhile

/-!
# White space in front of bytes

The content type of bytes is inferred from two views of them: from the whole, where a magic number
is looked for and where text is told from other bytes, and from what stands behind the leading
white space, which may begin like HTML, XML or JSON.  White space in front changes the first view
only, and there it hides a magic number and nothing else.

## Main Definitions

- `MediaType.BeginsWithMagic`: bytes with a magic number at the front
- `MediaType.suggested`: what the two views suggest when there is no magic number

## Main Statements

- `MediaType.ofBytes_of_not_magic`: the content type of bytes without a magic number
- `MediaType.ofBytes_blanks_append`: white space in front of bytes makes a difference exactly when
  they have a magic number
-/

namespace CloudStub.MediaType

variable {blanks bs : Bytes}

/-! ## Magic numbers -/

/-- Bytes with a magic number at the front. -/
def BeginsWithMagic (bs : Bytes) : Prop := ∃ m ∈ magicNumbers, m.1 <+: bs

theorem any_magicNumbers_iff :
    (magicNumbers.any fun m => m.1.isPrefixOf bs) = true ↔ BeginsWithMagic bs := by
  simp only [List.any_eq_true, List.isPrefixOf_iff_prefix, BeginsWithMagic]

instance (bs : Bytes) : Decidable (BeginsWithMagic bs) :=
  decidable_of_iff _ any_magicNumbers_iff

theorem ofMagic?_eq_none_iff : ofMagic? bs = none ↔ ¬ BeginsWithMagic bs := by
  simp [ofMagic?, BeginsWithMagic]

/-- The content types of magic numbers are not given to anything else. -/
theorem ofMagic?_mem {contentType : String} (h : ofMagic? bs = some contentType) :
    contentType ∈ magicNumbers.map (·.2) := by
  obtain ⟨m, hm, rfl⟩ := Option.map_eq_some_iff.1 h
  exact List.mem_map_of_mem (List.mem_of_find?_eq_some hm)

/-- No magic number begins with white space. -/
theorem not_beginsWithMagic_of_blank {b : UInt8} (h : Bytes.isBlank b = true) (rest : Bytes) :
    ¬ BeginsWithMagic (b :: rest) := by
  rintro ⟨m, hm, hprefix⟩
  have hfirst : ∀ m ∈ magicNumbers, m.1.head?.any (fun c => !Bytes.isBlank c) = true := by decide
  have hm := hfirst m hm
  cases hnumber : m.1 with
  | nil => simp [hnumber] at hm
  | cons c _ =>
    rw [hnumber, List.cons_prefix_cons] at hprefix
    simp [hnumber, hprefix.1, h] at hm

/-! ## The two views -/

/-- What is suggested by the bytes behind the leading white space, and by whether the whole is
text. -/
def suggested (trimmed : Bytes) (isText : Bool) : String :=
  if looksLikeHtml trimmed then html
  else if trimmed.head? == some 60 then xml
  else if looksLikeJson trimmed then json
  else if isText then MediaType.text
  else octets

theorem suggested_notMem (trimmed : Bytes) (isText : Bool) :
    suggested trimmed isText ∉ magicNumbers.map (·.2) := by
  unfold suggested
  repeat' split
  all_goals decide

/-- The content type of bytes without a magic number.  No bytes at all are text as well. -/
theorem ofBytes_of_not_magic (h : ¬ BeginsWithMagic bs) :
    ofBytes bs = suggested (Bytes.dropBlank bs) (looksLikeText bs) := by
  unfold ofBytes
  split
  · obtain rfl : bs = [] := by simpa using ‹bs.isEmpty = true›
    rfl
  · rw [ofMagic?_eq_none_iff.2 h]
    rfl

theorem ofBytes_mem_iff :
    ofBytes bs ∈ magicNumbers.map (·.2) ↔ BeginsWithMagic bs := by
  constructor
  · intro hmem
    by_contra h
    rw [ofBytes_of_not_magic h] at hmem
    exact suggested_notMem _ _ hmem
  · intro h
    have hne : bs ≠ [] := by
      rintro rfl
      exact ofMagic?_eq_none_iff.1 rfl h
    cases hmagic : ofMagic? bs with
    | none => exact absurd h (ofMagic?_eq_none_iff.1 hmagic)
    | some contentType =>
      have hbytes : ofBytes bs = contentType := by simp [ofBytes, hne, hmagic]
      rw [hbytes]
      exact ofMagic?_mem hmagic

/-! ## White space in front -/

theorem ascii_of_isBlank {b : UInt8} (h : Bytes.isBlank b = true) : b < 0x80 ∧ b ≠ 0 := by
  simp only [Bytes.isBlank, Bool.or_eq_true, beq_iff_eq] at h
  rcases h with (((rfl | rfl) | rfl) | rfl) | rfl <;> decide

theorem dropBlank_append (h : ∀ b ∈ blanks, Bytes.isBlank b = true) :
    Bytes.dropBlank (blanks ++ bs) = Bytes.dropBlank bs :=
  List.dropWhile_append_of_pos h

/-- White space is ASCII and not the zero character, so bytes are text with it as without it. -/
theorem looksLikeText_append (h : ∀ b ∈ blanks, Bytes.isBlank b = true) :
    looksLikeText (blanks ++ bs) = looksLikeText bs := by
  have hzero : blanks.contains 0 = false := by
    rw [Bool.eq_false_iff, ne_eq, List.contains_iff_mem]
    exact fun hmem => (ascii_of_isBlank (h 0 hmem)).2 rfl
  rw [looksLikeText, looksLikeText,
    Utf8.isSome_decode?_append fun b hb => (ascii_of_isBlank (h b hb)).1,
    List.contains_append, hzero, Bool.false_or]

/-- White space in front of bytes makes a difference to their content type exactly when they have a
magic number, which the white space hides. -/
theorem ofBytes_blanks_append (blanks bs : Bytes) (h : ∀ b ∈ blanks, Bytes.isBlank b = true) :
    ofBytes (blanks ++ bs) = ofBytes bs ↔ blanks = [] ∨ ¬ BeginsWithMagic bs := by
  cases blanks with
  | nil => simp
  | cons b rest =>
    have hfront : ¬ BeginsWithMagic (b :: rest ++ bs) :=
      not_beginsWithMagic_of_blank (h b (List.mem_cons_self ..)) _
    simp only [reduceCtorEq, false_or]
    constructor
    · intro heq hmagic
      rw [← ofBytes_mem_iff, ← heq, ofBytes_mem_iff] at hmagic
      exact hfront hmagic
    · intro hmagic
      rw [ofBytes_of_not_magic hfront, ofBytes_of_not_magic hmagic, dropBlank_append h,
        looksLikeText_append h]

/-- All five kinds of white space in front of a malformed byte and a zero. -/
theorem ofBytes_blanks_append_octets :
    (∀ b ∈ ([9, 10, 12, 13, 32] : Bytes), Bytes.isBlank b = true) ∧
      ¬ BeginsWithMagic [0xC3, 0, 60] ∧
      ofBytes ([9, 10, 12, 13, 32] ++ [0xC3, 0, 60]) = ofBytes [0xC3, 0, 60] :=
  ⟨by simp [Bytes.isBlank], by decide +kernel,
    (ofBytes_blanks_append [9, 10, 12, 13, 32] [0xC3, 0, 60] (by simp [Bytes.isBlank])).2
      (.inr (by decide +kernel))⟩

/-- A space hides the magic number of an image. -/
example : ofBytes [71, 73, 70, 56, 57, 97] = "image/gif" ∧
    ofBytes (32 :: [71, 73, 70, 56, 57, 97]) = MediaType.text := by
  decide +kernel

end CloudStub.MediaType
