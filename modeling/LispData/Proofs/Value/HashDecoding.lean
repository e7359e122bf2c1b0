import LispData.Proofs.Value.HashCollision
/-!
# Hash decoding — where streams tell the values

Two things are confused in hash streams: the end of an improper list with a
number, and the end of a proper list with a symbol. The first does not come up
where all lists are proper. For the second the name of the symbol would have to
be what follows the end of a list; but there comes nothing, or a word of which
all bytes after the first are zero (`exists_stream_eq`), and a name without NUL
has no zero byte. So marks without these two kinds are told by their bytes
(`stream_inj`), and so are sequences of values that have only such marks,
however many were hashed one after the other (`Value.foldl_hashInto_eq_iff`).
-/

namespace LispData

/-! ## Marks that are not confused -/

/-- An atom that is no symbol with NUL in its name. -/
def Atom.NulFree : Atom → Prop
  | .symbol s => '\x00' ∉ s.name.toList
  | _ => True

namespace Mark

/-- **A mark that is not confused**: no end of an improper list, and no symbol
with NUL in its name. -/
def Distinct : Mark → Prop
  | .atom a => a.NulFree
  | .dotted _ => False
  | _ => True

end Mark

/-- The word of a small number has its first byte, and zeros. -/
theorem wordBytes_eq_cons {n : Nat} (h : n < 7) :
    wordBytes n = UInt8.ofNat n :: 0 :: List.replicate 6 0 := by
  have hall : ∀ i : Fin 7,
      wordBytes i.val = UInt8.ofNat i.val :: 0 :: List.replicate 6 0 := by decide
  exact hall ⟨n, h⟩

/-- **What follows a mark** is nothing, or starts with a small number and a zero
byte. -/
theorem exists_stream_eq (ms : List Mark) :
    stream ms = [] ∨ ∃ n k, n < 7 ∧ stream ms = UInt8.ofNat n :: 0 :: k := by
  cases ms with
  | nil => exact .inl rfl
  | cons m ms =>
    refine .inr ⟨m.tag, List.replicate 6 0 ++ (m.payload ++ stream ms), m.tag_lt, ?_⟩
    rw [stream_cons, Mark.bytes_eq, wordBytes_eq_cons m.tag_lt, List.append_assoc]
    rfl

/-- **No name without NUL follows a mark.** -/
theorem stream_ne_textBytes_append {ms : List Mark} {name : String} {k : List UInt8}
    (h : '\x00' ∉ name.toList) : stream ms ≠ textBytes name ++ k := by
  have hzero := zero_not_mem_utf8 h
  rw [textBytes, List.append_assoc]
  intro heq
  rcases exists_stream_eq ms with hms | ⟨n, k', hn, hms⟩
  · rw [hms] at heq
    exact List.cons_ne_nil _ _ (List.append_eq_nil_iff.1 heq.symm).2
  · rw [hms] at heq
    -- the byte that ends the name is neither of the first two, so both are in the name
    cases hname : utf8 name with
    | nil =>
      rw [hname] at heq
      have hfirst : UInt8.ofNat n = 0xff := (List.cons.inj heq).1
      have hnat : n % 256 = 255 := by
        rw [← UInt8.toNat_ofNat', hfirst]
        rfl
      omega
    | cons b bytes =>
      rw [hname, List.cons_append, List.cons.injEq] at heq
      cases bytes with
      | nil => exact absurd (List.cons.inj heq.2).1 (by decide)
      | cons b' bytes =>
        rw [List.cons_append, List.cons.injEq] at heq
        refine hzero ?_
        rw [hname, heq.2.1]
        exact List.mem_cons_of_mem _ List.mem_cons_self

/-- Such marks are not confused. -/
theorem not_confused {m m' : Mark} {ms : List Mark} {k' : List UInt8} (hm : m.Distinct)
    (hm' : m'.Distinct) : ¬ Confused m (stream ms) m' k' := by
  intro h
  cases h with
  | symbol hname => exact stream_ne_textBytes_append hm' hname
  | number hint hrest => exact hm

/-- **Distinct marks are told by their bytes.** -/
theorem stream_inj {ms ms' : List Mark} (hms : ∀ m ∈ ms, m.Distinct)
    (hms' : ∀ m ∈ ms', m.Distinct) (h : stream ms = stream ms') : ms = ms' := by
  rcases (stream_eq_iff ms ms').1 h with heq | ⟨common, m, k, m', k', rfl, rfl, hconfused⟩
  · exact heq
  · have hm := hms m (List.mem_append_right _ List.mem_cons_self)
    have hm' := hms' m' (List.mem_append_right _ List.mem_cons_self)
    rcases hconfused with hconfused | hconfused
    · exact absurd hconfused (not_confused hm hm')
    · exact absurd hconfused (not_confused hm' hm)

/-! ## Values with such marks -/

namespace Value

/-- Every chain, at every depth, is a proper list. -/
def Proper : Value → Prop
  | .atom _ => True
  | .pair a d => (Pair.mk a d).isList = true ∧ a.Proper ∧ d.Proper

/-- No symbol, at any depth, has NUL in its name. -/
def NulFree (v : Value) : Prop :=
  v.AllAtoms Atom.NulFree

/-- **Proper values without NUL have distinct marks**, and so have their chains
behind an element. -/
theorem distinct_of_mem_marks {v : Value} (hproper : v.Proper) (hnul : v.NulFree) :
    (∀ m ∈ v.marks, m.Distinct) ∧ (v.ending = .empty → ∀ m ∈ v.restMarks, m.Distinct) := by
  induction v with
  | atom a =>
    refine ⟨fun m hm => ?_, fun hending m hm => ?_⟩
    · rw [marks_atom, List.mem_singleton] at hm
      rw [hm]
      exact hnul
    · obtain rfl : a = .empty := hending
      rw [restMarks_empty, List.mem_singleton] at hm
      rw [hm]
      trivial
  | pair a d iha ihd =>
    obtain ⟨hlist, hcar, hcdr⟩ := hproper
    have hending : d.ending = .empty := by
      rw [Pair.isList, beq_iff_eq] at hlist
      exact hlist
    have helement := (iha hcar hnul.1).1
    have hrest := (ihd hcdr hnul.2).2 hending
    refine ⟨fun m hm => ?_, fun _ m hm => ?_⟩
    · rw [marks_pair, List.mem_cons, List.mem_append] at hm
      rcases hm with rfl | hm | hm
      · trivial
      · exact helement m hm
      · exact hrest m hm
    · rw [restMarks_pair, List.mem_append] at hm
      rcases hm with hm | hm
      · exact helement m hm
      · exact hrest m hm

/-! ## Sequences of values -/

/-- The marks of values one after the other tell the values. -/
theorem flatMap_marks_inj {vs ws : List Value} (h : vs.flatMap marks = ws.flatMap marks) :
    vs = ws := by
  have hne (v : Value) (ms : List Mark) : v.marks ++ ms ≠ [] := by
    cases v with
    | atom a => rw [marks_atom]; exact List.cons_ne_nil _ _
    | pair a d => rw [marks_pair]; exact List.cons_ne_nil _ _
  induction vs generalizing ws with
  | nil =>
    cases ws with
    | nil => rfl
    | cons w ws => exact absurd h.symm (hne w _)
  | cons v vs ih =>
    cases ws with
    | nil => exact absurd h (hne v _)
    | cons w ws =>
      rw [List.flatMap_cons, List.flatMap_cons] at h
      obtain ⟨rfl, hrest⟩ := marks_append_inj v w h
      rw [ih hrest]

/-- What is hashed one after the other is the bytes of all marks. -/
theorem toList_foldl_hashInto (buffer : ByteArray) (vs : List Value) :
    (vs.foldl hashInto buffer).data.toList = buffer.data.toList ++ stream (vs.flatMap marks) := by
  induction vs generalizing buffer with
  | nil => simp
  | cons v vs ih =>
    rw [List.foldl_cons, ih, toList_hashInto, ← hashBytes_eq_flatten, hashBytes_eq_stream,
      List.flatMap_cons, stream_append, List.append_assoc]

/-- **Where hashing is safe**: of values that are proper and without NUL, two
sequences that are hashed one after the other, behind whatever was hashed before,
come to the same bytes exactly when they are the same sequence. -/
theorem foldl_hashInto_eq_iff (vs ws : List Value) (hvs : ∀ v ∈ vs, v.Proper ∧ v.NulFree)
    (hws : ∀ w ∈ ws, w.Proper ∧ w.NulFree) (buffer : ByteArray) :
    vs.foldl hashInto buffer = ws.foldl hashInto buffer ↔ vs = ws := by
  have hmarks {xs : List Value} (hxs : ∀ x ∈ xs, x.Proper ∧ x.NulFree) :
      ∀ m ∈ xs.flatMap marks, m.Distinct := by
    intro m hm
    obtain ⟨x, hx, hm⟩ := List.mem_flatMap.1 hm
    obtain ⟨hproper, hnul⟩ := hxs x hx
    exact (distinct_of_mem_marks hproper hnul).1 m hm
  constructor
  · intro h
    have hbytes := congrArg (fun bytes => bytes.data.toList) h
    simp only [toList_foldl_hashInto] at hbytes
    exact flatMap_marks_inj (stream_inj (hmarks hvs) (hmarks hws) (List.append_cancel_left hbytes))
  · rintro rfl
    rfl

/-- A symbol behind a list of one is hashed unlike the same symbol at the end of
the list. -/
theorem foldl_hashInto_element_ne :
    (∀ v ∈ [list [.number 5], .symbol "a"], v.Proper ∧ v.NulFree) ∧
      (∀ w ∈ [list [.number 5, .symbol "a"]], w.Proper ∧ w.NulFree) ∧
      [list [.number 5], .symbol "a"].foldl hashInto .empty ≠
        [list [.number 5, .symbol "a"]].foldl hashInto .empty := by
  have hone : ∀ v ∈ [list [.number 5], .symbol "a"], v.Proper ∧ v.NulFree := by
    intro v hv
    rcases List.mem_cons.1 hv with rfl | hv
    · exact ⟨⟨rfl, trivial, trivial⟩, trivial, trivial⟩
    · obtain rfl := List.mem_singleton.1 hv
      exact ⟨trivial, (by decide : '\x00' ∉ "a".toList)⟩
  have htwo : ∀ w ∈ [list [.number 5, .symbol "a"]], w.Proper ∧ w.NulFree := by
    intro w hw
    obtain rfl := List.mem_singleton.1 hw
    exact ⟨⟨rfl, trivial, rfl, trivial, trivial⟩, trivial,
      (by decide : '\x00' ∉ "a".toList), trivial⟩
  refine ⟨hone, htwo, fun h => ?_⟩
  have hsame := (foldl_hashInto_eq_iff _ _ hone htwo .empty).1 h
  cases hsame

/-- With NUL in their names, symbols can stand for the end of a list and for a
text behind it. -/
example :
    [list [.number 5], .symbol "t", .symbol "\x02\x00\x00\x00\x00\x00\x00\x00c"].foldl hashInto
        .empty =
      [list [.number 5, .symbol "\x00\x00\x00\x00\x00\x00\x00\x00t"], .text "c"].foldl hashInto
        .empty := by
  decide

end Value

end LispData
