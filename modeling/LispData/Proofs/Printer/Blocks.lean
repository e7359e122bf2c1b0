import LispData.Proofs.Printer.Writing
/-!
# Blocks — a buffer in the portions that calls take

A sink takes a buffer in blocks of as many bytes as one call may take, the last
perhaps shorter (`Limits.blocks`). How blocks are answered is told by the room
for them (`Limits.answers`): each is taken as long as it fits; of the first that
does not fit there is taken what there is room for, the next call fails, and no
other is made. Blocks after blocks are answered with the room that is left
(`Limits.answers_append_of_fits`), or not at all
(`Limits.answers_append_of_not_fits`).
-/

namespace LispData

/-! ## Cutting a list -/

section Cut

variable {α : Type} {size : Nat} {l : List α}

/-- A list cut from its start into parts of `size` items; the last may be
shorter. -/
def cut (size : Nat) (l : List α) : List (List α) :=
  (List.range ((l.length + size - 1) / size)).map fun i => (l.drop (i * size)).take size

theorem cut_nil (hsize : 0 < size) : cut size ([] : List α) = [] := by
  have hnone : (0 + size - 1) / size = 0 := Nat.div_eq_of_lt (by omega)
  rw [cut, List.length_nil, hnone]
  rfl

/-- **The first part, then the others.** -/
theorem cut_of_ne_nil (hsize : 0 < size) (hne : l ≠ []) :
    cut size l = l.take size :: cut size (l.drop size) := by
  have hpos : 0 < l.length := List.length_pos_iff.2 hne
  have hcount : (l.length + size - 1) / size = (l.length - size + size - 1) / size + 1 := by
    rcases Nat.lt_or_ge l.length size with hlt | hge
    · have hone : (l.length + size - 1) / size = 1 :=
        Nat.div_eq_of_lt_le (by omega) (by omega)
      have hnone : (l.length - size + size - 1) / size = 0 := Nat.div_eq_of_lt (by omega)
      omega
    · rw [← Nat.add_div_right _ hsize]
      congr 1
      omega
  have hdrop (i : Nat) : l.drop ((i + 1) * size) = (l.drop size).drop (i * size) := by
    rw [List.drop_drop, Nat.succ_mul, Nat.add_comm]
  rw [cut, cut, List.length_drop, hcount, List.range_succ_eq_map, List.map_cons, List.map_map,
    Nat.zero_mul, List.drop_zero]
  simp only [Function.comp_def, Nat.succ_eq_add_one, hdrop]

/-- The parts make up the list. -/
theorem flatten_cut (hsize : 0 < size) (l : List α) : (cut size l).flatten = l := by
  -- by induction on the number of items, which the first part makes smaller
  induction h : l.length using Nat.strongRecOn generalizing l with
  | _ n ih =>
    by_cases hne : l = []
    · rw [hne, cut_nil hsize]
      rfl
    · have hpos : 0 < l.length := List.length_pos_iff.2 hne
      have hrest := ih (l.drop size).length (by rw [List.length_drop]; omega) (l.drop size) rfl
      rw [cut_of_ne_nil hsize hne, List.flatten_cons, hrest, List.take_append_drop]

end Cut

/-! ## Blocks and how they are answered -/

/-- Whether a call was answered, and not interrupted. -/
def Call.isAnswered : Call → Bool
  | .interrupted => false
  | _ => true

namespace Limits

/-- A buffer cut from its start into blocks of as many bytes as one call may
take. -/
def blocks (l : Limits) (buffer : List UInt8) : List (List UInt8) :=
  match l.chunk with
  | some size => cut size buffer
  | none => if buffer = [] then [] else [buffer]

/-- How a call is recorded for which there is no room. -/
def refusal (l : Limits) : Call :=
  match l.full with
  | some _ => .failed
  | none => .tookNothing

/-- **How blocks are answered** while there is so much room left, or no bound:
they are taken as long as they fit; of the first that does not fit there is taken
what there is room for, and then a call fails. -/
def answers (l : Limits) : Option Nat → List (List UInt8) → List Call
  | _, [] => []
  | none, block :: blocks => .took block :: l.answers none blocks
  | some room, block :: blocks =>
    if block.length ≤ room then .took block :: l.answers (some (room - block.length)) blocks
    else (if 0 < room then [.took (block.take room)] else []) ++ [l.refusal]

/-- What is left of the capacity when so many bytes were asked for. -/
def room (l : Limits) (asked : Nat) : Option Nat :=
  l.capacity.map fun capacity => capacity - asked

/-- There is room for so many bytes. -/
def Fits : Option Nat → Nat → Prop
  | none, _ => True
  | some room, n => n ≤ room

variable {l : Limits} {buffer block : List UInt8} {blocks blocks' : List (List UInt8)}
  {room : Option Nat}

/-! ### Room -/

/-- So many bytes do not fit where a bound leaves room for fewer. -/
theorem not_fits_iff {n : Nat} : ¬ Fits room n ↔ ∃ left, room = some left ∧ left < n := by
  cases room with
  | none => simp [Fits]
  | some left => simp [Fits]

/-- **Bytes after bytes fit** where the first do and the others fit in the room
that is left. -/
theorem fits_add_iff {m n : Nat} :
    Fits room (m + n) ↔ Fits room m ∧ Fits (room.map (· - m)) n := by
  cases room with
  | none => exact ⟨fun _ => ⟨trivial, trivial⟩, fun _ => trivial⟩
  | some left =>
    show m + n ≤ left ↔ m ≤ left ∧ n ≤ left - m
    omega

/-! ### Blocks -/

theorem blocks_nil (hu : l.Usable) : l.blocks [] = [] := by
  rw [Limits.blocks]
  split
  · next size hsize => exact cut_nil (hu.chunk_pos size hsize)
  · rfl

/-- **The first block is what one call may take**, and the others are those of
what is left. -/
theorem blocks_of_ne_nil (hu : l.Usable) (hne : buffer ≠ []) :
    l.blocks buffer = l.portion buffer :: l.blocks (buffer.drop (l.portion buffer).length) := by
  cases hchunk : l.chunk with
  | none =>
    simp only [Limits.blocks, portion, hchunk]
    rw [if_neg hne, List.drop_length, if_pos rfl]
  | some size =>
    have hdrop : buffer.drop (buffer.take size).length = buffer.drop size := by
      rcases Nat.lt_or_ge size buffer.length with hlt | hge
      · rw [List.length_take_of_le (Nat.le_of_lt hlt)]
      · rw [List.take_of_length_le hge, List.drop_length, List.drop_of_length_le hge]
    simp only [Limits.blocks, portion, hchunk]
    rw [hdrop]
    exact cut_of_ne_nil (hu.chunk_pos size hchunk) hne

theorem blocks_ne_nil (hu : l.Usable) (hne : buffer ≠ []) : l.blocks buffer ≠ [] := by
  rw [blocks_of_ne_nil hu hne]
  exact List.cons_ne_nil _ _

/-- The blocks make up the buffer. -/
theorem flatten_blocks (hu : l.Usable) (buffer : List UInt8) :
    (l.blocks buffer).flatten = buffer := by
  rw [Limits.blocks]
  split
  · next size hsize => exact flatten_cut (hu.chunk_pos size hsize) buffer
  · split
    · next hnil => rw [hnil]; rfl
    · rw [List.flatten_singleton]

/-! ### Answers -/

theorem answers_nil : l.answers room [] = [] := by
  cases room <;> rfl

/-- A block that fits is taken. -/
theorem answers_cons_of_fits (h : Fits room block.length) :
    l.answers room (block :: blocks) =
      .took block :: l.answers (room.map (· - block.length)) blocks := by
  cases room with
  | none => rfl
  | some room => exact if_pos h

/-- What comes after a block that does not fit is not tried. -/
theorem answers_cons_of_lt {left : Nat} (h : left < block.length) :
    l.answers (some left) (block :: blocks) =
      (if 0 < left then [.took (block.take left)] else []) ++ [l.refusal] :=
  if_neg (Nat.not_le.2 h)

/-- Without room the first block fails. -/
theorem answers_of_no_room (hne : block ≠ []) :
    l.answers (some 0) (block :: blocks) = [l.refusal] :=
  answers_cons_of_lt (List.length_pos_iff.2 hne)

/-- Blocks have answers. -/
theorem answers_eq_nil_iff : l.answers room blocks = [] ↔ blocks = [] := by
  constructor
  · intro h
    cases blocks with
    | nil => rfl
    | cons block blocks =>
      by_cases hfits : Fits room block.length
      · rw [answers_cons_of_fits hfits] at h
        cases h
      · obtain ⟨left, rfl, hlt⟩ := not_fits_iff.1 hfits
        rw [answers_cons_of_lt hlt] at h
        exact absurd (List.append_eq_nil_iff.1 h).2 (List.cons_ne_nil _ _)
  · rintro rfl
    exact answers_nil

/-- **Blocks after blocks that fit** are answered with the room that is left. -/
theorem answers_append_of_fits (h : Fits room blocks.flatten.length) :
    l.answers room (blocks ++ blocks') =
      l.answers room blocks ++ l.answers (room.map (· - blocks.flatten.length)) blocks' := by
  induction blocks generalizing room with
  | nil =>
    have hroom : room.map (· - ([] : List (List UInt8)).flatten.length) = room := by
      cases room <;> rfl
    rw [hroom, answers_nil]
    rfl
  | cons block blocks ih =>
    rw [List.flatten_cons, List.length_append] at h ⊢
    obtain ⟨hblock, hrest⟩ := fits_add_iff.1 h
    rw [List.cons_append, answers_cons_of_fits hblock, answers_cons_of_fits hblock, ih hrest,
      List.cons_append, Option.map_map]
    simp only [Function.comp_def, Nat.sub_sub]

/-- **Blocks after blocks that do not fit** are not tried. -/
theorem answers_append_of_not_fits (h : ¬ Fits room blocks.flatten.length) :
    l.answers room (blocks ++ blocks') = l.answers room blocks := by
  induction blocks generalizing room with
  | nil =>
    obtain ⟨left, -, hlt⟩ := not_fits_iff.1 h
    exact absurd hlt (Nat.not_lt_zero left)
  | cons block blocks ih =>
    rw [List.flatten_cons, List.length_append, fits_add_iff, not_and] at h
    by_cases hblock : Fits room block.length
    · rw [List.cons_append, answers_cons_of_fits hblock, answers_cons_of_fits hblock,
        ih (h hblock)]
    · obtain ⟨left, rfl, hlt⟩ := not_fits_iff.1 hblock
      rw [List.cons_append, answers_cons_of_lt hlt, answers_cons_of_lt hlt]

/-- **What one call takes is answered first**, and then what is left is. -/
theorem answers_blocks (hu : l.Usable) (hne : buffer ≠ []) {taken : List UInt8}
    (htaken : taken = match room with
      | some left => (l.portion buffer).take left
      | none => l.portion buffer)
    (hsome : taken ≠ []) :
    l.answers room (l.blocks buffer) =
      .took taken :: l.answers (room.map (· - taken.length))
        (l.blocks (buffer.drop taken.length)) := by
  rw [blocks_of_ne_nil hu hne]
  by_cases hfits : Fits room (l.portion buffer).length
  · -- the whole of what one call may take
    have hwhole : taken = l.portion buffer := by
      rw [htaken]
      cases room with
      | none => rfl
      | some left => exact List.take_of_length_le hfits
    rw [hwhole, answers_cons_of_fits hfits]
  · -- a part of it, and then there is no room for what is left
    obtain ⟨left, rfl, hlt⟩ := not_fits_iff.1 hfits
    have hlength : taken.length = left := by
      rw [htaken]
      exact List.length_take_of_le (Nat.le_of_lt hlt)
    have hpos : 0 < left := by
      rw [← hlength]
      exact List.length_pos_iff.2 hsome
    have hmore : buffer.drop left ≠ [] := by
      have hle := (l.portion_prefix buffer).length_le
      intro hnil
      have hend := List.drop_eq_nil_iff.1 hnil
      omega
    rw [answers_cons_of_lt hlt, if_pos hpos, hlength, htaken, Option.map_some, Nat.sub_self,
      blocks_of_ne_nil hu hmore, answers_of_no_room (portion_ne_nil hu hmore)]
    rfl

/-- No answer is an interruption. -/
theorem isAnswered_of_mem_answers {c : Call} (h : c ∈ l.answers room blocks) :
    c.isAnswered = true := by
  have hrefusal : l.refusal.isAnswered = true := by
    rw [refusal]
    split <;> rfl
  induction blocks generalizing room with
  | nil =>
    rw [answers_nil] at h
    cases h
  | cons block blocks ih =>
    by_cases hblock : Fits room block.length
    · rw [answers_cons_of_fits hblock] at h
      rcases List.mem_cons.1 h with rfl | h
      · rfl
      · exact ih h
    · obtain ⟨left, rfl, hlt⟩ := not_fits_iff.1 hblock
      rw [answers_cons_of_lt hlt, List.mem_append, List.mem_singleton] at h
      rcases h with h | rfl
      · split at h
        · obtain rfl := List.mem_singleton.1 h
          rfl
        · cases h
      · exact hrefusal

/-- **Writing succeeds exactly when there is room** for all bytes. -/
theorem outcome_eq_ok_iff {total bytes : List UInt8} :
    l.outcome total bytes = .ok () ↔ Fits (l.room total.length) bytes.length := by
  by_cases hfails : bytes ≠ [] ∧ l.Exceeded (total ++ bytes).length
  · obtain ⟨hne, capacity, hcapacity, hlt⟩ := hfails
    have hpos : 0 < bytes.length := List.length_pos_iff.2 hne
    rw [outcome_of_exceeded hne ⟨capacity, hcapacity, hlt⟩, Limits.room, hcapacity]
    refine ⟨nofun, fun h => ?_⟩
    have hle : bytes.length ≤ capacity - total.length := h
    rw [List.length_append] at hlt
    omega
  · rw [outcome, if_neg hfails, Limits.room]
    refine ⟨fun _ => ?_, fun _ => rfl⟩
    cases hcapacity : l.capacity with
    | none => exact trivial
    | some capacity =>
      show bytes.length ≤ capacity - total.length
      by_cases hnil : bytes = []
      · rw [hnil]
        exact Nat.zero_le _
      · have hle : ¬ capacity < (total ++ bytes).length := fun hlt =>
          hfails ⟨hnil, capacity, hcapacity, hlt⟩
        rw [List.length_append] at hle
        omega

end Limits

end LispData
