import LalrBackend.Proofs.Packed.Canonical

/-!
# Packed units that end too early

The units of a table announce how many values they hold, so a part of them is never
taken for a smaller table: where the header is cut there is nothing to unpack, and where
the values are cut the number announced and the number found are reported. What follows
the units of a table changes nothing.
-/

namespace LalrBackend.Packed

section Truncation

variable {values front : List Int}

theorem decode_of_length_lt_three {units : List Int} (h : units.length < 3) :
    decode units = .error .noHeader := by
  match units with
  | [] => rfl
  | [_] => rfl
  | [_, _] => rfl
  | _ :: _ :: _ :: _ => simp only [List.length_cons] at h; omega

/-- The header of a table, then any units in the place of its values. -/
theorem decode_header_append (values data : List Int) :
    decode (header values ++ data) =
      if values.length ≤ data.length then
        .ok ((data.take values.length).map (· - -lowest values))
      else .error (.truncated values.length data.length) :=
  decode_of_announced (announced_split values.length) data

/-- Units that are missing some of their values are refused with both numbers. -/
theorem decode_of_prefix (h : front <+: unitsFor values) (hne : front ≠ unitsFor values)
    (hlen : 3 ≤ front.length) :
    decode front = .error (.truncated values.length (front.length - 3 : Nat)) := by
  have hheader : header values <+: front :=
    List.prefix_of_prefix_length_le (List.prefix_append ..) h hlen
  obtain ⟨data, rfl⟩ := hheader
  have hsize : (header values ++ data).length = data.length + 3 := by
    rw [List.length_append, Nat.add_comm]
    rfl
  -- A prefix as long as the whole would be the whole.
  have hshort : ¬ values.length ≤ data.length := by
    intro hle
    apply hne
    apply h.eq_of_length_le
    rw [unitsFor_length, hsize]
    omega
  rw [decode_header_append, if_neg hshort, hsize, Nat.add_sub_cancel]

/-- What follows the units of a table is left out. -/
theorem decode_unitsFor_append (values extra : List Int) :
    decode (unitsFor values ++ extra) = .ok values := by
  have hwhole := decode_unitsFor values
  rw [unitsFor, decode_header_append, map_sub_length, if_pos (Nat.le_refl _)] at hwhole
  rw [unitsFor, List.append_assoc, decode_header_append, List.length_append, map_sub_length,
    if_pos (Nat.le_add_right ..),
    List.take_append_of_le_length (Nat.le_of_eq (map_sub_length ..).symm)]
  exact hwhole

/-- The two numbers are named if the greater one is short enough to be written. -/
theorem message?_truncated (expected got : Nat) :
    (DecodeError.truncated expected got).message? =
      if expected < 10 ^ Text.mostDigits then
        some ("Packed table truncated: expected " ++ Text.decimal expected ++ " values, got " ++
          Text.decimal got)
      else none := by
  have hwritable : Text.isWritable expected = true ↔ expected < 10 ^ Text.mostDigits := by
    simp only [Text.isWritable, Nat.pow_eq, Int.natAbs_natCast, decide_eq_true_eq]
  unfold DecodeError.message?
  by_cases h : expected < 10 ^ Text.mostDigits
  · simp only [if_pos (hwritable.mpr h), if_pos h]
  · simp only [if_neg (mt hwritable.mp h), if_neg h]

end Truncation

/-- **A part of packed units is never unpacked.** It has no header, or the number of values
announced and the number found are reported. Units that go on after their table give the
table. -/
theorem decode_refuses_parts {values : List Int} (h : ∀ v ∈ values, InRange v) :
    ∃ units, encode values = .ok units ∧
      (∀ front, front <+: units → front ≠ units →
        (front.length < 3 → decode front = .error .noHeader) ∧
        (3 ≤ front.length →
          decode front = .error (.truncated values.length (front.length - 3 : Nat)))) ∧
      (∀ got : Nat, (DecodeError.truncated values.length got).message? =
        if values.length < 10 ^ Text.mostDigits then
          some ("Packed table truncated: expected " ++ Text.decimal values.length ++
            " values, got " ++ Text.decimal got)
        else none) ∧
      ∀ extra, decode (units ++ extra) = .ok values := by
  refine ⟨unitsFor values, encode_of_inRange h, ?_, message?_truncated values.length,
    decode_unitsFor_append values⟩
  intro front hprefix hne
  exact ⟨decode_of_length_lt_three, decode_of_prefix hprefix hne⟩

/-- A table that needs both units for its length, without its last value and with values
behind it. -/
theorem decode_refuses_parts_long :
    let values : List Int := List.replicate 0x10001 (-1)
    (∀ v ∈ values, InRange v) ∧
      ∃ units, encode values = .ok units ∧
        decode units.dropLast = .error (.truncated 0x10001 0x10000) ∧
        decode (units ++ [0, 7]) = .ok values := by
  intro values
  have hrange : ∀ v ∈ values, InRange v := by
    intro v hv
    rw [List.eq_of_mem_replicate hv]
    decide
  have hsize : values.length = 0x10001 := List.length_replicate
  obtain ⟨units, hencode, hparts, _, hextra⟩ := decode_refuses_parts hrange
  have hunits : units.length = 0x10004 := by
    rw [(encode_eq_ok_iff.mp hencode).2, unitsFor_length, hsize]
  have hfront : units.dropLast.length = 0x10003 := by rw [List.length_dropLast, hunits]
  have hne : units.dropLast ≠ units := by
    intro heq
    have := congrArg List.length heq
    omega
  have hcut := (hparts _ (List.dropLast_prefix units) hne).2 (by omega)
  rw [hfront, hsize] at hcut
  exact ⟨hrange, units, hencode, hcut, hextra [0, 7]⟩

end LalrBackend.Packed
