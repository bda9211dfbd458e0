import Mathlib.Data.List.Basic

/-!
# The bytes of a text

A C program sees a text as bytes, in the encoding of the file that the text is written in. The texts here
are encoded in UTF-8.

Main statements: `utf8_inj`, a text is known by its bytes; `zero_mem_utf8`, the only text with a zero among
its bytes is one with the character of that number; `utf8_lt_utf8`, the bytes are ordered as the texts are.
-/

namespace ProfileBindings.Text

/-- The bytes of a text. -/
def utf8 (s : String) : List UInt8 := s.toList.flatMap String.utf8EncodeChar

theorem toByteArray_utf8 (s : String) : (utf8 s).toByteArray = s.toByteArray :=
  String.utf8Encode_toList

theorem utf8_inj {s t : String} : utf8 s = utf8 t ↔ s = t := by
  rw [← List.toByteArray_inj, toByteArray_utf8, toByteArray_utf8, String.toByteArray_inj]

theorem length_utf8 (s : String) : (utf8 s).length = s.utf8ByteSize := by
  rw [← String.size_toByteArray, ← toByteArray_utf8, List.size_toByteArray]

theorem utf8EncodeChar_of_ascii {c : Char} (h : c.toNat < 128) :
    String.utf8EncodeChar c = [UInt8.ofNat c.toNat] := by
  have h' : c.toNat ≤ 127 := Nat.le_of_lt_succ h
  simp only [String.utf8EncodeChar, Char.toNat_val, h', if_true]

/-- Every byte of a longer encoding has its highest bit set. -/
theorem zero_mem_utf8EncodeChar {c : Char} : 0 ∈ String.utf8EncodeChar c ↔ c = '\x00' := by
  have hc : c = '\x00' ↔ c.val.toNat = 0 := by
    rw [← Char.toNat_inj, Char.toNat_val]
    rfl
  rw [hc]
  unfold String.utf8EncodeChar
  generalize c.val.toNat = v
  dsimp only
  -- One byte is the number itself; each of two, three or four has its mark added to it.
  split
  · simp only [List.mem_singleton, ← UInt8.toNat_inj, UInt8.toNat_ofNat', UInt8.toNat_zero]
    omega
  · split
    on_goal 2 => split
    all_goals
      simp only [List.mem_cons, List.not_mem_nil, or_false, ← UInt8.toNat_inj, UInt8.toNat_ofNat',
        UInt8.toNat_zero]
      omega

theorem zero_mem_utf8 {s : String} : 0 ∈ utf8 s ↔ '\x00' ∈ s.toList := by
  simp only [utf8, List.mem_flatMap, zero_mem_utf8EncodeChar]
  exact ⟨fun ⟨c, hc, e⟩ => e ▸ hc, fun h => ⟨_, h, rfl⟩⟩

/-! ## Order -/

/-- The two differ before either ends, and where they first do the byte of the first is the smaller. -/
def Below : List UInt8 → List UInt8 → Prop
  | a :: as, b :: bs => a < b ∨ a = b ∧ Below as bs
  | _, _ => False

theorem Below.append_lt {as bs : List UInt8} (h : Below as bs) (x y : List UInt8) :
    as ++ x < bs ++ y := by
  induction as generalizing bs with
  | nil => exact h.elim
  | cons a as ih =>
    cases bs with
    | nil => exact h.elim
    | cons b bs =>
      rw [List.cons_append, List.cons_append, List.cons_lt_cons_iff]
      exact h.imp_right fun ⟨heq, hrest⟩ => ⟨heq, ih hrest⟩

/-- A greater character has a greater encoding: the first byte is greater with every byte that there is more,
and behind it stand the digits of the number. -/
theorem below_utf8EncodeChar {c d : Char} (h : c < d) :
    Below (String.utf8EncodeChar c) (String.utf8EncodeChar d) := by
  have hlt : c.val.toNat < d.val.toNat := h
  have hd : d.val.toNat < 0x110000 := by rcases d.valid with hv | hv <;> omega
  unfold String.utf8EncodeChar
  generalize c.val.toNat = v at hlt
  generalize d.val.toNat = w at hlt hd
  dsimp only
  have h64 : v / 64 < w / 64 ∨ v / 64 = w / 64 := by omega
  have h4096 : v / 4096 < w / 4096 ∨ v / 4096 = w / 4096 := by omega
  have h262144 : v / 262144 < w / 262144 ∨ v / 262144 = w / 262144 := by omega
  -- Where the lengths of the encodings differ the first bytes decide.
  repeat' split
  all_goals
    simp (disch := omega) only [Below, UInt8.lt_iff_toNat_lt, ← UInt8.toNat_inj, UInt8.toNat_ofNat',
      Nat.mod_eq_of_lt, and_false, or_false]
  all_goals omega

/-- The bytes of texts are ordered as the texts are. -/
theorem utf8_lt_utf8 {s t : String} (h : s < t) : utf8 s < utf8 t := by
  rw [String.lt_iff] at h
  unfold utf8
  generalize s.toList = cs at h
  generalize t.toList = ds at h
  induction cs generalizing ds with
  | nil =>
    cases ds with
    | nil => exact absurd h (List.lt_irrefl _)
    | cons d ds =>
      have hne : String.utf8EncodeChar d ≠ [] := by
        rw [← List.length_pos_iff, String.length_utf8EncodeChar]
        exact d.utf8Size_pos
      obtain ⟨b, rest, heq⟩ := List.exists_cons_of_ne_nil hne
      rw [List.flatMap_cons, heq]
      exact List.nil_lt_cons _ _
  | cons c cs ih =>
    cases ds with
    | nil => exact absurd h (List.not_lt_nil _)
    | cons d ds =>
      rw [List.flatMap_cons, List.flatMap_cons]
      rcases List.cons_lt_cons_iff.mp h with hlt | ⟨rfl, hrest⟩
      · exact (below_utf8EncodeChar hlt).append_lt _ _
      · exact List.append_left_lt (ih ds hrest)

end ProfileBindings.Text
