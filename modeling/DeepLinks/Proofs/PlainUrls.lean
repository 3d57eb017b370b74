import DeepLinks.Proofs.UrlPieces

/-!
# URLs that are read as they are written

A path of pieces over the characters of encodings, none of them a dot segment, comes out of the
reader unchanged. The encoding of a text is such a piece unless the text is one or two dots. A
query comes out unchanged if it consists of the separators of entries and of the characters that
are read as they are, of which there are more in a query than in a path.
-/

namespace DeepLinks

open Percent (isEncoded)

namespace Url

theorem space_lt_of_isEncoded {c : Char} (h : isEncoded c = true) : ' ' < c :=
  (Percent.toNat_of_isEncoded h).1

namespace Path

/-- A piece of a path that the reader neither escapes nor resolves. -/
structure IsPlain (piece : Segment) : Prop where
  isEncoded : ∀ c ∈ piece, isEncoded c = true
  not_isSelf : isSelf piece = false
  not_isParent : isParent piece = false

theorem isPlain_encode {s : String} (hself : s ≠ ".") (hparent : s ≠ "..") :
    IsPlain (Percent.encode s).toList := by
  have hdecode : Percent.decode true (String.ofList (Percent.encode s).toList) = .ok s := by
    rw [String.ofList_toList, Percent.decode_encode]
  obtain ⟨hnotSelf, hnotParent⟩ := not_dots_of_decode hdecode hself hparent
  exact ⟨fun c hc => Percent.isEncoded_of_mem_encode hc, hnotSelf, hnotParent⟩

section IsEncoded

variable {piece : Segment} (h : ∀ c ∈ piece, isEncoded c = true)
include h

theorem isDriveLetter_of_isEncoded : isDriveLetter piece = false := by
  unfold isDriveLetter
  split
  · rename_i c d
    have hd := h d (by simp)
    have hcolon : d ≠ ':' := Percent.ne_of_holds hd (by decide)
    have hbar : d ≠ '|' := Percent.ne_of_holds hd (by decide)
    simp [hcolon, hbar]
  · rfl

theorem escapeWhere_of_isEncoded : escapeWhere isEscapedInPath piece = piece := by
  refine Url.escapeWhere_eq_self fun c hc => ?_
  have hascii := Percent.toNat_of_isEncoded (h c hc)
  exact ⟨by omega, by omega, Percent.contains_eq_false_of_holds (h c hc) (by decide)⟩

theorem space_lt_getLast?_of_isEncoded : ∀ c ∈ piece.getLast?, ' ' < c :=
  fun c hc => space_lt_of_isEncoded (h c (List.mem_of_getLast? hc))

end IsEncoded

theorem IsPlain.escapeWhere_eq_self {piece : Segment} (h : IsPlain piece) :
    escapeWhere isEscapedInPath piece = piece :=
  escapeWhere_of_isEncoded h.isEncoded

theorem IsPlain.isWhole {piece : Segment} (h : IsPlain piece) (k : Kind) : IsWhole k piece := by
  refine ⟨fun c hc => ?_, ?_⟩
  · have hencoded := h.isEncoded c hc
    have hslash := (Host.stays_of_mayHold (Host.mayHold_of_isEncoded hencoded) k).2.1
    exact ⟨Percent.ne_of_holds hencoded (by decide), Percent.ne_of_holds hencoded (by decide),
      hslash, isDropped_of_space_lt (space_lt_of_isEncoded hencoded)⟩
  · rw [h.escapeWhere_eq_self]
    exact ⟨h.not_isSelf, h.not_isParent⟩

end Path

/-- The characters of a query that links write. -/
def isQueryChar (c : Char) : Bool :=
  isEncoded c || c == '&' || c == '='

/-- The characters of a key that a query is read with as it was written. -/
def isKeyChar (isSpecial : Bool) (c : Char) : Bool :=
  ' ' < c && c.toNat ≤ 0x7E && !isEscapedInQuery isSpecial c && c != '&' && c != '='

theorem isKeyChar_iff {isSpecial : Bool} {c : Char} :
    isKeyChar isSpecial c = true ↔
      ' ' < c ∧ c.toNat ≤ 0x7E ∧ isEscapedInQuery isSpecial c = false ∧ c ≠ '&' ∧ c ≠ '=' := by
  simp [isKeyChar, and_assoc]

theorem not_mem_of_isKeyChar {isSpecial : Bool} {s : List Char}
    (h : ∀ c ∈ s, isKeyChar isSpecial c = true) : '&' ∉ s ∧ '=' ∉ s := by
  constructor
  · intro hc
    exact (isKeyChar_iff.mp (h _ hc)).2.2.2.1 rfl
  · intro hc
    exact (isKeyChar_iff.mp (h _ hc)).2.2.2.2 rfl

/-- What is left alone in a query is none of the characters that are escaped in all of them. -/
theorem contains_eq_false_of_isEscapedInQuery {isSpecial : Bool} {c : Char}
    (h : isEscapedInQuery isSpecial c = false) : [' ', '"', '#', '<', '>'].contains c = false :=
  (Bool.or_eq_false_iff.mp h).1

theorem spec_of_isKeyChar {isSpecial : Bool} {c : Char} (h : isKeyChar isSpecial c = true) :
    ' ' < c ∧ c ≠ '#' ∧ c.toNat ≤ 0x7E ∧ isEscapedInQuery isSpecial c = false := by
  obtain ⟨hspace, hascii, hescaped, -, -⟩ := isKeyChar_iff.mp h
  refine ⟨hspace, ?_, hascii, hescaped⟩
  rintro rfl
  exact absurd (contains_eq_false_of_isEscapedInQuery hescaped) (by decide)

theorem isKeyChar_of_isEncoded {c : Char} (h : isEncoded c = true) (isSpecial : Bool) :
    isKeyChar isSpecial c = true := by
  have hascii := Percent.toNat_of_isEncoded h
  have hne (d : Char) (hd : isEncoded d = false) : c ≠ d := Percent.ne_of_holds h hd
  refine isKeyChar_iff.mpr ⟨hascii.1, by omega, ?_, hne '&' (by decide), hne '=' (by decide)⟩
  simp [isEscapedInQuery, hne ' ' (by decide), hne '"' (by decide), hne '#' (by decide),
    hne '<' (by decide), hne '>' (by decide), hne '\'' (by decide)]

theorem spec_of_isQueryChar {c : Char} (h : isQueryChar c = true) (isSpecial : Bool) :
    ' ' < c ∧ c ≠ '#' ∧ c.toNat ≤ 0x7E ∧ isEscapedInQuery isSpecial c = false := by
  simp only [isQueryChar, Bool.or_eq_true, beq_iff_eq] at h
  rcases h with (h | rfl) | rfl
  · exact spec_of_isKeyChar (isKeyChar_of_isEncoded h isSpecial)
  · exact ⟨by decide, by decide, by decide, by cases isSpecial <;> decide⟩
  · exact ⟨by decide, by decide, by decide, by cases isSpecial <;> decide⟩

theorem readQuery_eq_self {k : Kind} {query : List Char}
    (h : ∀ c ∈ query, isQueryChar c = true ∨ isKeyChar k.isSpecial c = true) :
    readQuery k query = query := by
  have hspec : ∀ c ∈ query,
      ' ' < c ∧ c ≠ '#' ∧ c.toNat ≤ 0x7E ∧ isEscapedInQuery k.isSpecial c = false := by
    intro c hc
    rcases h c hc with hquery | hkey
    · exact spec_of_isQueryChar hquery k.isSpecial
    · exact spec_of_isKeyChar hkey
  have hclean : cleanEnd query = query :=
    cleanEnd_eq_self (fun c hc => isDropped_of_space_lt (hspec c hc).1)
      fun c hc => (hspec c (List.mem_of_getLast? hc)).1
  have htake : query.takeWhile (· ≠ '#') = query := by
    rw [List.takeWhile_eq_self_iff]
    exact fun c hc => decide_eq_true (hspec c hc).2.1
  rw [readQuery, hclean, htake, escapeWhere_eq_self]
  intro c hc
  obtain ⟨hspace, -, hascii, hescaped⟩ := hspec c hc
  exact ⟨Nat.le_of_lt hspace, hascii, hescaped⟩

/-- Apart from the separators, whatever a query is read as consists of these characters. -/
theorem isKeyChar_of_mem_readQuery {k : Kind} {query : List Char} {c : Char}
    (h : c ∈ readQuery k query) (hamp : c ≠ '&') (hequals : c ≠ '=') :
    isKeyChar k.isSpecial c = true := by
  rcases of_mem_escapeWhere h with ⟨-, hlow, hascii, hescaped⟩ | hencoded
  · have hspace : c ≠ ' ' := by
      rintro rfl
      exact absurd (contains_eq_false_of_isEscapedInQuery hescaped) (by decide)
    have hne : c.toNat ≠ ' '.toNat := fun heq => hspace (Char.toNat_inj.mp heq)
    have hlt : ' '.toNat < c.toNat := Nat.lt_of_le_of_ne hlow hne.symm
    exact isKeyChar_iff.mpr ⟨hlt, hascii, hescaped, hamp, hequals⟩
  · exact isKeyChar_of_isEncoded hencoded k.isSpecial

end Url

end DeepLinks
