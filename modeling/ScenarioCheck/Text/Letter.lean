/-! Letters up to case. Two characters agree when their one-to-one lower-case forms (Unicode 14)
are equal or belong to the same small family of forms of one letter. No character stands for
several. -/
namespace ScenarioCheck.Text

/-- One run of upper-case letters outside ASCII: `(first, last, stride, offset)`. Every `stride`-th
code point from `first` to `last` has its lower-case form `offset` further. -/
def lowerRuns : List (Nat × Nat × Nat × Int) := [
  (0xC0, 0xD6, 0x1, 0x20), (0xD8, 0xDE, 0x1, 0x20), (0x100, 0x12E, 0x2, 0x1), (0x130, 0x130, 0x1, -199), (0x132, 0x136, 0x2, 0x1),
  (0x139, 0x147, 0x2, 0x1), (0x14A, 0x176, 0x2, 0x1), (0x178, 0x178, 0x1, -121), (0x179, 0x17D, 0x2, 0x1), (0x181, 0x181, 0x1, 0xD2),
  (0x182, 0x184, 0x2, 0x1), (0x186, 0x186, 0x1, 0xCE), (0x187, 0x187, 0x1, 0x1), (0x189, 0x18A, 0x1, 0xCD), (0x18B, 0x18B, 0x1, 0x1),
  (0x18E, 0x18E, 0x1, 0x4F), (0x18F, 0x18F, 0x1, 0xCA), (0x190, 0x190, 0x1, 0xCB), (0x191, 0x191, 0x1, 0x1), (0x193, 0x193, 0x1, 0xCD),
  (0x194, 0x194, 0x1, 0xCF), (0x196, 0x196, 0x1, 0xD3), (0x197, 0x197, 0x1, 0xD1), (0x198, 0x198, 0x1, 0x1), (0x19C, 0x19C, 0x1, 0xD3),
  (0x19D, 0x19D, 0x1, 0xD5), (0x19F, 0x19F, 0x1, 0xD6), (0x1A0, 0x1A4, 0x2, 0x1), (0x1A6, 0x1A6, 0x1, 0xDA), (0x1A7, 0x1A7, 0x1, 0x1),
  (0x1A9, 0x1A9, 0x1, 0xDA), (0x1AC, 0x1AC, 0x1, 0x1), (0x1AE, 0x1AE, 0x1, 0xDA), (0x1AF, 0x1AF, 0x1, 0x1), (0x1B1, 0x1B2, 0x1, 0xD9),
  (0x1B3, 0x1B5, 0x2, 0x1), (0x1B7, 0x1B7, 0x1, 0xDB), (0x1B8, 0x1B8, 0x1, 0x1), (0x1BC, 0x1BC, 0x1, 0x1), (0x1C4, 0x1C4, 0x1, 0x2),
  (0x1C5, 0x1C5, 0x1, 0x1), (0x1C7, 0x1C7, 0x1, 0x2), (0x1C8, 0x1C8, 0x1, 0x1), (0x1CA, 0x1CA, 0x1, 0x2), (0x1CB, 0x1DB, 0x2, 0x1),
  (0x1DE, 0x1EE, 0x2, 0x1), (0x1F1, 0x1F1, 0x1, 0x2), (0x1F2, 0x1F4, 0x2, 0x1), (0x1F6, 0x1F6, 0x1, -97), (0x1F7, 0x1F7, 0x1, -56),
  (0x1F8, 0x21E, 0x2, 0x1), (0x220, 0x220, 0x1, -130), (0x222, 0x232, 0x2, 0x1), (0x23A, 0x23A, 0x1, 0x2A2B), (0x23B, 0x23B, 0x1, 0x1),
  (0x23D, 0x23D, 0x1, -163), (0x23E, 0x23E, 0x1, 0x2A28), (0x241, 0x241, 0x1, 0x1), (0x243, 0x243, 0x1, -195), (0x244, 0x244, 0x1, 0x45),
  (0x245, 0x245, 0x1, 0x47), (0x246, 0x24E, 0x2, 0x1), (0x370, 0x372, 0x2, 0x1), (0x376, 0x376, 0x1, 0x1), (0x37F, 0x37F, 0x1, 0x74),
  (0x386, 0x386, 0x1, 0x26), (0x388, 0x38A, 0x1, 0x25), (0x38C, 0x38C, 0x1, 0x40), (0x38E, 0x38F, 0x1, 0x3F), (0x391, 0x3A1, 0x1, 0x20),
  (0x3A3, 0x3AB, 0x1, 0x20), (0x3CF, 0x3CF, 0x1, 0x8), (0x3D8, 0x3EE, 0x2, 0x1), (0x3F4, 0x3F4, 0x1, -60), (0x3F7, 0x3F7, 0x1, 0x1),
  (0x3F9, 0x3F9, 0x1, -7), (0x3FA, 0x3FA, 0x1, 0x1), (0x3FD, 0x3FF, 0x1, -130), (0x400, 0x40F, 0x1, 0x50), (0x410, 0x42F, 0x1, 0x20),
  (0x460, 0x480, 0x2, 0x1), (0x48A, 0x4BE, 0x2, 0x1), (0x4C0, 0x4C0, 0x1, 0xF), (0x4C1, 0x4CD, 0x2, 0x1), (0x4D0, 0x52E, 0x2, 0x1),
  (0x531, 0x556, 0x1, 0x30), (0x10A0, 0x10C5, 0x1, 0x1C60), (0x10C7, 0x10C7, 0x1, 0x1C60), (0x10CD, 0x10CD, 0x1, 0x1C60), (0x13A0, 0x13EF, 0x1, 0x97D0),
  (0x13F0, 0x13F5, 0x1, 0x8), (0x1C90, 0x1CBA, 0x1, -3008), (0x1CBD, 0x1CBF, 0x1, -3008), (0x1E00, 0x1E94, 0x2, 0x1), (0x1E9E, 0x1E9E, 0x1, -7615),
  (0x1EA0, 0x1EFE, 0x2, 0x1), (0x1F08, 0x1F0F, 0x1, -8), (0x1F18, 0x1F1D, 0x1, -8), (0x1F28, 0x1F2F, 0x1, -8), (0x1F38, 0x1F3F, 0x1, -8),
  (0x1F48, 0x1F4D, 0x1, -8), (0x1F59, 0x1F5F, 0x2, -8), (0x1F68, 0x1F6F, 0x1, -8), (0x1F88, 0x1F8F, 0x1, -8), (0x1F98, 0x1F9F, 0x1, -8),
  (0x1FA8, 0x1FAF, 0x1, -8), (0x1FB8, 0x1FB9, 0x1, -8), (0x1FBA, 0x1FBB, 0x1, -74), (0x1FBC, 0x1FBC, 0x1, -9), (0x1FC8, 0x1FCB, 0x1, -86),
  (0x1FCC, 0x1FCC, 0x1, -9), (0x1FD8, 0x1FD9, 0x1, -8), (0x1FDA, 0x1FDB, 0x1, -100), (0x1FE8, 0x1FE9, 0x1, -8), (0x1FEA, 0x1FEB, 0x1, -112),
  (0x1FEC, 0x1FEC, 0x1, -7), (0x1FF8, 0x1FF9, 0x1, -128), (0x1FFA, 0x1FFB, 0x1, -126), (0x1FFC, 0x1FFC, 0x1, -9), (0x2126, 0x2126, 0x1, -7517),
  (0x212A, 0x212A, 0x1, -8383), (0x212B, 0x212B, 0x1, -8262), (0x2132, 0x2132, 0x1, 0x1C), (0x2160, 0x216F, 0x1, 0x10), (0x2183, 0x2183, 0x1, 0x1),
  (0x24B6, 0x24CF, 0x1, 0x1A), (0x2C00, 0x2C2F, 0x1, 0x30), (0x2C60, 0x2C60, 0x1, 0x1), (0x2C62, 0x2C62, 0x1, -10743), (0x2C63, 0x2C63, 0x1, -3814),
  (0x2C64, 0x2C64, 0x1, -10727), (0x2C67, 0x2C6B, 0x2, 0x1), (0x2C6D, 0x2C6D, 0x1, -10780), (0x2C6E, 0x2C6E, 0x1, -10749), (0x2C6F, 0x2C6F, 0x1, -10783),
  (0x2C70, 0x2C70, 0x1, -10782), (0x2C72, 0x2C72, 0x1, 0x1), (0x2C75, 0x2C75, 0x1, 0x1), (0x2C7E, 0x2C7F, 0x1, -10815), (0x2C80, 0x2CE2, 0x2, 0x1),
  (0x2CEB, 0x2CED, 0x2, 0x1), (0x2CF2, 0x2CF2, 0x1, 0x1), (0xA640, 0xA66C, 0x2, 0x1), (0xA680, 0xA69A, 0x2, 0x1), (0xA722, 0xA72E, 0x2, 0x1),
  (0xA732, 0xA76E, 0x2, 0x1), (0xA779, 0xA77B, 0x2, 0x1), (0xA77D, 0xA77D, 0x1, -35332), (0xA77E, 0xA786, 0x2, 0x1), (0xA78B, 0xA78B, 0x1, 0x1),
  (0xA78D, 0xA78D, 0x1, -42280), (0xA790, 0xA792, 0x2, 0x1), (0xA796, 0xA7A8, 0x2, 0x1), (0xA7AA, 0xA7AA, 0x1, -42308), (0xA7AB, 0xA7AB, 0x1, -42319),
  (0xA7AC, 0xA7AC, 0x1, -42315), (0xA7AD, 0xA7AD, 0x1, -42305), (0xA7AE, 0xA7AE, 0x1, -42308), (0xA7B0, 0xA7B0, 0x1, -42258), (0xA7B1, 0xA7B1, 0x1, -42282),
  (0xA7B2, 0xA7B2, 0x1, -42261), (0xA7B3, 0xA7B3, 0x1, 0x3A0), (0xA7B4, 0xA7C2, 0x2, 0x1), (0xA7C4, 0xA7C4, 0x1, -48), (0xA7C5, 0xA7C5, 0x1, -42307),
  (0xA7C6, 0xA7C6, 0x1, -35384), (0xA7C7, 0xA7C9, 0x2, 0x1), (0xA7D0, 0xA7D0, 0x1, 0x1), (0xA7D6, 0xA7D8, 0x2, 0x1), (0xA7F5, 0xA7F5, 0x1, 0x1),
  (0xFF21, 0xFF3A, 0x1, 0x20), (0x10400, 0x10427, 0x1, 0x28), (0x104B0, 0x104D3, 0x1, 0x28), (0x10570, 0x1057A, 0x1, 0x27), (0x1057C, 0x1058A, 0x1, 0x27),
  (0x1058C, 0x10592, 0x1, 0x27), (0x10594, 0x10595, 0x1, 0x27), (0x10C80, 0x10CB2, 0x1, 0x40), (0x118A0, 0x118BF, 0x1, 0x20), (0x16E40, 0x16E5F, 0x1, 0x20),
  (0x1E900, 0x1E921, 0x1, 0x22)]

/-- Forms of one letter that have different lower-case forms: the key agrees with each of the
others. -/
def letterKin : List (Nat × List Nat) := [
  (0x69, [0x131]), (0x73, [0x17F]), (0xB5, [0x3BC]), (0x131, [0x69]), (0x17F, [0x73]),
  (0x345, [0x3B9, 0x1FBE]), (0x390, [0x1FD3]), (0x3B0, [0x1FE3]), (0x3B2, [0x3D0]), (0x3B5, [0x3F5]),
  (0x3B8, [0x3D1]), (0x3B9, [0x345, 0x1FBE]), (0x3BA, [0x3F0]), (0x3BC, [0xB5]), (0x3C0, [0x3D6]),
  (0x3C1, [0x3F1]), (0x3C2, [0x3C3]), (0x3C3, [0x3C2]), (0x3C6, [0x3D5]), (0x3D0, [0x3B2]),
  (0x3D1, [0x3B8]), (0x3D5, [0x3C6]), (0x3D6, [0x3C0]), (0x3F0, [0x3BA]), (0x3F1, [0x3C1]),
  (0x3F5, [0x3B5]), (0x432, [0x1C80]), (0x434, [0x1C81]), (0x43E, [0x1C82]), (0x441, [0x1C83]),
  (0x442, [0x1C84, 0x1C85]), (0x44A, [0x1C86]), (0x463, [0x1C87]), (0x1C80, [0x432]), (0x1C81, [0x434]),
  (0x1C82, [0x43E]), (0x1C83, [0x441]), (0x1C84, [0x442, 0x1C85]), (0x1C85, [0x442, 0x1C84]), (0x1C86, [0x44A]),
  (0x1C87, [0x463]), (0x1C88, [0xA64B]), (0x1E61, [0x1E9B]), (0x1E9B, [0x1E61]), (0x1FBE, [0x345, 0x3B9]),
  (0x1FD3, [0x390]), (0x1FE3, [0x3B0]), (0xA64B, [0x1C88]), (0xFB05, [0xFB06]), (0xFB06, [0xFB05])]

def lower (c : Char) : Char :=
  let n := c.toNat
  if n < 0x80 then
    if 'A' ≤ c ∧ c ≤ 'Z' then Char.ofNat (n + 32) else c
  else
    match lowerRuns.find? fun (first, last, stride, _) =>
        first ≤ n && n ≤ last && (n - first) % stride == 0 with
    | some (_, _, _, offset) => Char.ofNat (Int.toNat (n + offset))
    | none => c

/-- The other members of the family of a lower-case letter. -/
def kin (c : Char) : List Char :=
  ((letterKin.lookup c.toNat).getD []).map Char.ofNat

def agrees (pattern text : Char) : Bool :=
  lower text == lower pattern || (kin (lower pattern)).contains (lower text)

def agreesAll : List Char → List Char → Bool
  | [], [] => true
  | p :: ps, t :: ts => agrees p t && agreesAll ps ts
  | _, _ => false

def dropAgreeing : List Char → List Char → Option (List Char)
  | [], text => some text
  | _ :: _, [] => none
  | p :: ps, t :: ts => if agrees p t then dropAgreeing ps ts else none

@[simp] theorem agrees_refl (c : Char) : agrees c c = true := by simp [agrees]

@[simp] theorem dropAgreeing_eq_some_iff {literal text rest : List Char} :
    dropAgreeing literal text = some rest ↔
      ∃ head, text = head ++ rest ∧ agreesAll literal head = true := by
  induction literal generalizing text with
  | nil =>
    constructor
    · rintro ⟨⟩; exact ⟨[], rfl, rfl⟩
    · rintro ⟨head, rfl, h⟩
      cases head <;> simp_all [agreesAll, dropAgreeing]
  | cons p ps ih =>
    cases text with
    | nil =>
      simp only [dropAgreeing, reduceCtorEq, false_iff, not_exists, not_and]
      intro head hh
      have : head = [] := (List.append_eq_nil_iff.1 hh.symm).1
      simp [this, agreesAll]
    | cons t ts =>
      simp only [dropAgreeing]
      constructor
      · intro h
        split at h
        · rename_i ha
          obtain ⟨head, rfl, hr⟩ := ih.1 h
          exact ⟨t :: head, rfl, by simp [agreesAll, ha, hr]⟩
        · cases h
      · rintro ⟨head, hh, ha⟩
        cases head with
        | nil => simp [agreesAll] at ha
        | cons x xs =>
          simp only [List.cons_append, List.cons.injEq] at hh
          obtain ⟨rfl, rfl⟩ := hh
          simp only [agreesAll, Bool.and_eq_true] at ha
          simp [ha.1, ih.2 ⟨xs, rfl, ha.2⟩]

end ScenarioCheck.Text
