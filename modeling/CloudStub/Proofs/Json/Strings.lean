import CloudStub.Json.Outline
import CloudStub.Json.Text
import Mathlib.Tactic.Common

/-!
# Reading strings back

A string is read back from its quoted text, whatever characters it has and whatever follows it, and
so is an object whose members are strings.

## Main Definitions

- `Outline.letterEscapes`: the characters that are written by an escape of one letter
- `Json.ofStrings`: an object whose members are strings

## Main Statements

- `Outline.escapeChar_cases`: the three ways to write a character
- `Outline.readString_quoted`: the characters of a string are read back
- `Outline.readMembers_strings`: so are the members of an object
- `Json.parse?_text_ofStrings`: an object of strings in key order is read back from its text
-/

namespace CloudStub

/-! ## Strings -/

namespace Outline

theorem hexDigit?_digitChar : ∀ n < 16, Ascii.hexDigit? (Nat.digitChar n) = some n := by decide

/-- Reading one character of a string that does not end it. -/
theorem readString_next {s s' : StringState} {c : Char} {out : List Char}
    (h : s.step c = .next out s') (rest : List Char) :
    readString s (c :: rest) = (readString s' rest).map fun r => (out ++ r.1, r.2) := by
  simp only [readString, h]

theorem readString_backslash (rest : List Char) :
    readString .plain ('\\' :: rest) =
      (readString .escape rest).map fun r => ([] ++ r.1, r.2) :=
  readString_next rfl rest

/-- An escape of one letter. -/
theorem readString_simpleEscape {letter c : Char} (h : simpleEscape? letter = some c)
    (hu : letter ≠ 'u') (rest : List Char) :
    readString .plain ('\\' :: letter :: rest) =
      (readString .plain rest).map fun r => (c :: r.1, r.2) := by
  have hletter : StringState.escape.step letter = .next [c] .plain := by
    simp [StringState.step, hu, h]
  rw [readString_backslash, readString_next hletter, Option.map_map]
  rfl

/-- A numeric escape of two digits. -/
theorem readString_control {n : Nat} (h : n < 32) (rest : List Char) :
    readString .plain ('\\' :: 'u' :: '0' :: '0' ::
        Nat.digitChar (n / 16) :: Nat.digitChar (n % 16) :: rest) =
      (readString .plain rest).map fun r => (Char.ofNat n :: r.1, r.2) := by
  have hletter : StringState.escape.step 'u' = .next [] (.number none 4 0) := rfl
  have hfirst : (StringState.number none 4 0).step '0' = .next [] (.number none 3 0) := rfl
  have hsecond : (StringState.number none 3 0).step '0' = .next [] (.number none 2 0) := rfl
  have hhigh := hexDigit?_digitChar (n / 16) (by omega)
  have hlow := hexDigit?_digitChar (n % 16) (by omega)
  have hsum : (0 * 16 + n / 16) * 16 + n % 16 = n := by omega
  have hthird : (StringState.number none 2 0).step (Nat.digitChar (n / 16)) =
      .next [] (.number none 1 (0 * 16 + n / 16)) := by
    simp [StringState.step, hhigh]
  have hfourth : (StringState.number none 1 (0 * 16 + n / 16)).step (Nat.digitChar (n % 16)) =
      .next [Char.ofNat n] .plain := by
    have hfirstHalf : ¬ 0xD800 ≤ n := by omega
    have hsecondHalf : ¬ 0xDC00 ≤ n := by omega
    simp only [StringState.step, hlow, hsum]
    simp [closeNumber, hfirstHalf, hsecondHalf]
  rw [readString_backslash, readString_next hletter, readString_next hfirst,
    readString_next hsecond, readString_next hthird, readString_next hfourth]
  simp only [Option.map_map]
  rfl

/-- The characters that are written by an escape of one letter, each with its letter. -/
def letterEscapes : List (Char × Char) :=
  [('"', '"'), ('\\', '\\'), ('\n', 'n'), ('\r', 'r'), ('\t', 't'), ('\x08', 'b'), ('\x0c', 'f')]

theorem escapeChar_letter : ∀ e ∈ letterEscapes,
    simpleEscape? e.2 = some e.1 ∧ e.2 ≠ 'u' ∧ Json.escapeChar e.1 = ['\\', e.2] := by
  decide

/-- The three ways to write a character of a string: by an escape of one letter, by a numeric
escape, or as it is. -/
theorem escapeChar_cases (c : Char) :
    (∃ letter, simpleEscape? letter = some c ∧ letter ≠ 'u' ∧
        Json.escapeChar c = ['\\', letter]) ∨
      (c.toNat < 32 ∧ Json.escapeChar c =
        ['\\', 'u', '0', '0', Nat.digitChar (c.toNat / 16), Nat.digitChar (c.toNat % 16)]) ∨
      (StringState.plain.step c = .next [c] .plain ∧ Json.escapeChar c = [c]) := by
  by_cases hletter : c ∈ letterEscapes.map (·.1)
  · obtain ⟨e, he, rfl⟩ := List.mem_map.1 hletter
    exact .inl ⟨e.2, escapeChar_letter e he⟩
  · simp only [letterEscapes, List.map_cons, List.map_nil, List.mem_cons, List.not_mem_nil,
      or_false, not_or] at hletter
    by_cases hcontrol : c.toNat < 32
    · exact .inr (.inl ⟨hcontrol, by simp [Json.escapeChar, hletter, hcontrol]⟩)
    · exact .inr (.inr ⟨by simp [StringState.step, hletter, hcontrol],
        by simp [Json.escapeChar, hletter, hcontrol]⟩)

/-- The written form of a character of a string is read as that character. -/
theorem readString_escapeChar (c : Char) (rest : List Char) :
    readString .plain (Json.escapeChar c ++ rest) =
      (readString .plain rest).map fun r => (c :: r.1, r.2) := by
  obtain ⟨letter, hletter, hu, hwritten⟩ | ⟨hcontrol, hwritten⟩ | ⟨hplain, hwritten⟩ :=
    escapeChar_cases c
  · rw [hwritten]
    exact readString_simpleEscape hletter hu rest
  · have h := readString_control hcontrol rest
    rw [Char.ofNat_toNat] at h
    rw [hwritten]
    exact h
  · rw [hwritten]
    exact readString_next hplain rest

/-- The characters of a string are read back, up to the quote that ends it. -/
theorem readString_quoted (cs rest : List Char) :
    readString .plain (cs.flatMap Json.escapeChar ++ '"' :: rest) = some (cs, rest) := by
  induction cs with
  | nil => rfl
  | cons c cs ih =>
    rw [List.flatMap_cons, List.append_assoc, readString_escapeChar, ih]
    rfl

theorem toList_quote (s : String) :
    (Json.quote s).toList = '"' :: (s.toList.flatMap Json.escapeChar ++ ['"']) := by
  simp [Json.quote]

/-- A quoted string is read as the string, at any depth. -/
theorem read_quote (depth : Nat) (s : String) (rest : List Char) :
    read depth ((Json.quote s).toList ++ rest) = (.str s, some rest) := by
  have hscalar : read depth ((Json.quote s).toList ++ rest) =
      readScalar ((Json.quote s).toList ++ rest) := by
    rw [toList_quote]
    cases depth <;> rfl
  rw [hscalar, toList_quote, List.cons_append, List.append_assoc, List.singleton_append]
  simp only [readScalar, readString_quoted, String.ofList_toList]

/-! ## Objects of strings -/

/-- A member as it is written. -/
def memberChars (kv : String × String) : List Char :=
  (Json.quote kv.1).toList ++ ':' :: (Json.quote kv.2).toList

theorem dropBlank_cons {c : Char} (h : isBlank c = false) (cs : List Char) :
    dropBlank (c :: cs) = c :: cs := by
  simp [dropBlank, h]

theorem memberChars_append (kv : String × String) (rest : List Char) :
    memberChars kv ++ rest = '"' :: (kv.1.toList.flatMap Json.escapeChar ++
      '"' :: ':' :: ((Json.quote kv.2).toList ++ rest)) := by
  simp [memberChars, toList_quote]

section Members

variable (depth fuel : Nat) (kv : String × String) (rest : List Char)

/-- A member is read, and behind a comma further ones. -/
theorem readMembers_comma :
    readMembers (read depth) (fuel + 1) (memberChars kv ++ ',' :: rest) =
      ((kv.1, .str kv.2) :: (readMembers (read depth) fuel rest).1,
        (readMembers (read depth) fuel rest).2) := by
  rw [memberChars_append, readMembers, dropBlank_cons rfl]
  simp only [readString_quoted, dropBlank_cons (c := ':') rfl, read_quote,
    dropBlank_cons (c := ',') rfl, String.ofList_toList]

/-- A member is read that a brace follows. -/
theorem readMembers_brace :
    readMembers (read depth) (fuel + 1) (memberChars kv ++ '\x7d' :: rest) =
      ([(kv.1, .str kv.2)], some rest) := by
  rw [memberChars_append, readMembers, dropBlank_cons rfl]
  simp only [readString_quoted, dropBlank_cons (c := ':') rfl, read_quote,
    dropBlank_cons (c := '\x7d') rfl, String.ofList_toList]

end Members

/-- The members of an object are read back, up to the brace that ends it. -/
theorem readMembers_strings (depth : Nat) (rest : List Char) (kv : String × String)
    (members : List (String × String)) (fuel : Nat) (hfuel : members.length < fuel) :
    readMembers (read depth) fuel
        ([','].intercalate ((kv :: members).map memberChars) ++ '\x7d' :: rest) =
      ((kv :: members).map fun kv => (kv.1, .str kv.2), some rest) := by
  obtain ⟨fuel, rfl⟩ : ∃ n, fuel = n + 1 := ⟨fuel - 1, by omega⟩
  induction members generalizing kv fuel with
  | nil =>
    rw [List.map_singleton, List.intercalate_singleton, readMembers_brace]
    rfl
  | cons next members ih =>
    rw [List.length_cons] at hfuel
    obtain ⟨fuel, rfl⟩ : ∃ n, fuel = n + 1 := ⟨fuel - 1, by omega⟩
    have hnext := ih next fuel (by omega)
    rw [List.map_cons] at hnext
    rw [List.map_cons, List.map_cons, List.intercalate_cons_cons, List.append_assoc,
      List.append_assoc, List.singleton_append, readMembers_comma, hnext]
    rfl

/-- There are no more members than characters. -/
theorem length_le_intercalate (kv : String × String) (members : List (String × String)) :
    members.length ≤ ([','].intercalate ((kv :: members).map memberChars)).length := by
  induction members generalizing kv with
  | nil => exact Nat.zero_le _
  | cons next members ih =>
    have hnext := ih next
    rw [List.map_cons] at hnext
    rw [List.map_cons, List.map_cons, List.intercalate_cons_cons]
    simp only [List.length_append, List.length_cons, List.length_nil]
    omega

/-- An object that is not empty is read as its members. -/
theorem read_brace_quote (depth : Nat) (cs : List Char) :
    read (depth + 1) ('\x7b' :: '"' :: cs) =
      (.obj (readMembers (read depth) (('"' :: cs).length + 1) ('"' :: cs)).1
          (readMembers (read depth) (('"' :: cs).length + 1) ('"' :: cs)).2.isSome,
        (readMembers (read depth) (('"' :: cs).length + 1) ('"' :: cs)).2) := rfl

/-- An object of strings is read back. -/
theorem read_strings (depth : Nat) (kv : String × String) (members : List (String × String)) :
    read (depth + 1)
        ('\x7b' :: ([','].intercalate ((kv :: members).map memberChars) ++ ['\x7d'])) =
      (.obj ((kv :: members).map fun kv => (kv.1, .str kv.2)) true, some []) := by
  have hlength := length_le_intercalate kv members
  have hmembers := readMembers_strings depth [] kv members
    (([','].intercalate ((kv :: members).map memberChars) ++ ['\x7d']).length + 1)
    (by rw [List.length_append]; omega)
  -- The text begins with a quote, so the object is not empty.
  obtain ⟨cs, hcs⟩ : ∃ cs, [','].intercalate ((kv :: members).map memberChars) ++ ['\x7d'] =
      '"' :: cs := by
    cases members with
    | nil =>
      rw [List.map_singleton, List.intercalate_singleton, memberChars_append]
      exact ⟨_, rfl⟩
    | cons next members =>
      rw [List.map_cons, List.map_cons, List.intercalate_cons_cons, List.append_assoc,
        List.append_assoc, memberChars_append]
      exact ⟨_, rfl⟩
  rw [hcs] at hmembers ⊢
  rw [read_brace_quote, hmembers]
  rfl

end Outline

/-! ## Texts -/

namespace Json

/-- An object whose members are strings. -/
def ofStrings (members : List (String × String)) : Json :=
  .ofMembers (members.map fun kv => (kv.1, .str kv.2))

theorem memberTexts_eq {start : Option String} : (members : Dict.Behind Json start) →
    memberTexts members = members.toList.map fun kv => quote kv.1 ++ ":" ++ text kv.2
  | .nil => rfl
  | .cons k v _ rest => by rw [memberTexts, memberTexts_eq rest]; rfl

theorem sorted_strings {members : List (String × String)} (h : Entries.Sorted members) :
    Entries.Sorted (members.map fun kv => (kv.1, Json.str kv.2)) :=
  List.pairwise_map.2 h

theorem toList_text_ofStrings {members : List (String × String)} (h : Entries.Sorted members) :
    (ofStrings members).text.toList =
      '\x7b' :: ([','].intercalate (members.map Outline.memberChars) ++ ['\x7d']) := by
  have hmembers : (memberTexts (Dict.ofList
      (members.map fun kv => (kv.1, Json.str kv.2)))).map String.toList =
        members.map Outline.memberChars := by
    rw [memberTexts_eq, Dict.toList_ofList (sorted_strings h), List.map_map, List.map_map]
    refine List.map_congr_left fun kv _ => ?_
    simp [text, Outline.memberChars]
  simp [ofStrings, ofMembers, text, String.toList_intercalate, hmembers]

theorem membersToJson_strings (members : List (String × String)) :
    Outline.membersToJson (members.map fun kv => (kv.1, .str kv.2)) =
      members.map fun kv => (kv.1, Json.str kv.2) := by
  induction members with
  | nil => rfl
  | cons kv rest ih => rw [List.map_cons, Outline.membersToJson, ih]; rfl

/-- An object of strings in key order is read back from its text. -/
theorem parse?_text_ofStrings {members : List (String × String)} (h : Entries.Sorted members) :
    parse? (ofStrings members).text = some (ofStrings members) := by
  have hread : Outline.ofText (ofStrings members).text =
      (.obj (members.map fun kv => (kv.1, .str kv.2)) true, some []) := by
    rw [Outline.ofText, toList_text_ofStrings h]
    cases members with
    | nil => rfl
    | cons kv rest => exact Outline.read_strings _ kv rest
  rw [parse?, hread]
  simp only [Outline.dropBlank, List.dropWhile_nil, List.isEmpty_nil, if_true, Outline.toJson,
    membersToJson_strings]
  rfl

end Json

end CloudStub
