import GpuQuota.Region.Layout
import Mathlib.Algebra.Group.Nat.Defs
import Mathlib.Data.List.FinRange
import Mathlib.Order.MinMax

/-!
# Fields of a file

A file of fixed layout is written field by field, each a little-endian word at an offset. Two facts
carry everything that is said of the file as a whole. Fields that are written as they were read
change no byte. And fields that have no byte in common are all read back as they were written.

The module introduces:

* `Layout.byteAt` — a byte of a file, with zeros past the end.
* `Layout.Alike` — files with the same bytes, apart from zeros at the end.
* `Layout.word_setWord`, `Layout.word_congr` — a word that was just written, and one that was not.
* `Layout.Field`, `Layout.Field.Block` — a word to be written somewhere, and fields in a range that
  have no byte in common.
* `Layout.Field.alike_foldl_write`, `Layout.Field.word_foldl_write` — the two facts.
-/

namespace GpuQuota

namespace Layout

/-! ## Bytes -/

/-- The byte at an offset; what lies past the end reads as zero. -/
def byteAt (bytes : ByteArray) (j : Nat) : UInt8 := bytes[j]?.getD 0

theorem byteAt_eq_data (bytes : ByteArray) (j : Nat) : byteAt bytes j = bytes.data[j]?.getD 0 := rfl

/-- Behind the end there are zeros. -/
theorem byteAt_of_size_le {bytes : ByteArray} {j : Nat} (h : bytes.size ≤ j) :
    byteAt bytes j = 0 := by
  rw [byteAt_eq_data, Array.getElem?_eq_none h]
  rfl

/-- Before the end the bytes are those of the array. -/
theorem getElem?_eq_byteAt {bytes : ByteArray} {j : Nat} (h : j < bytes.size) :
    bytes.data[j]? = some (byteAt bytes j) := by
  rw [byteAt_eq_data, Array.getElem?_eq_getElem h]
  rfl

/-- Storing a byte changes no size. -/
theorem size_set! (bytes : ByteArray) (i : Nat) (v : UInt8) : (bytes.set! i v).size = bytes.size :=
  Array.size_setIfInBounds

/-- A byte is stored at its place, if that is before the end, and nowhere else. -/
theorem byteAt_set! (bytes : ByteArray) (i j : Nat) (v : UInt8) :
    byteAt (bytes.set! i v) j = if i = j ∧ i < bytes.size then v else byteAt bytes j := by
  show (bytes.data.setIfInBounds i v)[j]?.getD 0 = _
  rw [Array.getElem?_setIfInBounds, ByteArray.size_data]
  by_cases hij : i = j
  · subst hij
    by_cases hi : i < bytes.size
    · rw [if_pos rfl, if_pos hi, if_pos ⟨rfl, hi⟩]
      rfl
    · rw [if_pos rfl, if_neg hi, if_neg fun h => hi h.2, byteAt_of_size_le (not_lt.1 hi)]
      rfl
  · rw [if_neg hij, if_neg fun h => hij h.1]
    rfl

/-- The start of some bytes, with zeros behind it. -/
theorem byteAt_extract (bytes : ByteArray) (stop j : Nat) :
    byteAt (bytes.extract 0 stop) j = if j < stop then byteAt bytes j else 0 := by
  rw [byteAt_eq_data, ByteArray.data_extract, Array.getElem?_extract, ByteArray.size_data,
    Nat.sub_zero, Nat.zero_add]
  by_cases hj : j < stop
  · by_cases hsize : j < bytes.size
    · rw [if_pos (lt_min hj hsize), if_pos hj]
      rfl
    · rw [if_neg fun h => hsize (lt_min_iff.1 h).2, if_pos hj, byteAt_of_size_le (not_lt.1 hsize)]
      rfl
  · rw [if_neg fun h => hj (lt_min_iff.1 h).1, if_neg hj]
    rfl

/-- Continuing bytes with zeros shows nowhere. -/
theorem byteAt_padTo (bytes : ByteArray) (length j : Nat) :
    byteAt (padTo bytes length) j = byteAt bytes j := by
  rw [byteAt_eq_data, padTo, ByteArray.data_append, Array.getElem?_append]
  split
  next => rfl
  next h =>
    rw [byteAt_of_size_le (not_lt.1 h), Array.getElem?_replicate]
    split <;> rfl

/-- Padding makes bytes long enough. -/
theorem le_size_padTo (bytes : ByteArray) (length : Nat) : length ≤ (padTo bytes length).size := by
  rw [padTo, ByteArray.size_append]
  show length ≤ _ + (Array.replicate _ _).size
  rw [Array.size_replicate]
  omega

/-- The bytes are the same, but for zeros at the end. -/
def Alike (b b' : ByteArray) : Prop := ∀ j, byteAt b j = byteAt b' j

/-! ## Words -/

/-- A word is as small as its width says. -/
theorem word_lt (bytes : ByteArray) (offset width : Nat) :
    word bytes offset width < 256 ^ width := by
  induction width generalizing offset with
  | zero => exact Nat.one_pos
  | succ width ih =>
    have hbyte := (bytes[offset]?.getD 0).toNat_lt
    have hrest := ih (offset + 1)
    rw [word, Nat.pow_succ]
    omega

/-- A word depends on its own bytes only. -/
theorem word_congr {b b' : ByteArray} {offset width : Nat}
    (h : ∀ j, offset ≤ j → j < offset + width → byteAt b j = byteAt b' j) :
    word b offset width = word b' offset width := by
  induction width generalizing offset with
  | zero => rfl
  | succ width ih =>
    have hbyte : b[offset]?.getD 0 = b'[offset]?.getD 0 := h offset le_rfl (by omega)
    rw [word, word, hbyte, ih fun j hj hlt => h j (by omega) (by omega)]

/-- Words past the end are zero. -/
theorem word_of_size_le {bytes : ByteArray} {offset : Nat} (h : bytes.size ≤ offset) (width : Nat) :
    word bytes offset width = 0 := by
  induction width generalizing offset with
  | zero => rfl
  | succ width ih =>
    have hbyte : bytes[offset]?.getD 0 = 0 := byteAt_of_size_le h
    rw [word, ih (by omega), hbyte]
    rfl

/-- Storing a word changes no size. -/
theorem size_setWord (bytes : ByteArray) (offset value width : Nat) :
    (setWord bytes offset value width).size = bytes.size := by
  induction width generalizing bytes offset value with
  | zero => rfl
  | succ width ih => rw [setWord, ih, size_set!]

/-- Outside of its place no byte changes when a word is stored. -/
theorem byteAt_setWord_of_outside {offset width j : Nat} (h : j < offset ∨ offset + width ≤ j)
    (bytes : ByteArray) (value : Nat) :
    byteAt (setWord bytes offset value width) j = byteAt bytes j := by
  induction width generalizing bytes offset value with
  | zero => rfl
  | succ width ih => rw [setWord, ih (by omega), byteAt_set!, if_neg (by omega)]

/-- A word that was written within the file is read back, as far as its width goes. -/
theorem word_setWord {bytes : ByteArray} {offset width : Nat} (h : offset + width ≤ bytes.size)
    (value : Nat) : word (setWord bytes offset value width) offset width = value % 256 ^ width := by
  -- By induction on the width: the lowest byte is written first, and the rest is a shorter word
  -- that begins behind it.
  induction width generalizing bytes offset value with
  | zero => exact (Nat.mod_one value).symm
  | succ width ih =>
    have hlow : (setWord bytes offset value (width + 1))[offset]?.getD 0 = UInt8.ofNat value := by
      rw [setWord]
      refine (byteAt_setWord_of_outside (.inl (Nat.lt_succ_self offset)) _ _).trans ?_
      rw [byteAt_set!, if_pos ⟨rfl, by omega⟩]
    have hsize : offset + 1 + width ≤ (bytes.set! offset (UInt8.ofNat value)).size := by
      rw [size_set!]
      omega
    have hrest := ih hsize (value / 256)
    have hpow : 256 ^ (width + 1) = 256 * 256 ^ width := Nat.pow_succ'
    rw [word, hlow, setWord, hrest, UInt8.toNat_ofNat', hpow]
    exact (Nat.mod_mul (x := value) (a := 256) (b := 256 ^ width)).symm

/-- A word that is written as it was read changes no byte. -/
theorem Alike.setWord {b b₀ : ByteArray} (h : Alike b b₀) (offset width : Nat) :
    Alike (setWord b offset (word b₀ offset width) width) b₀ := by
  -- The induction is on the width: one byte is written back, and the rest is a shorter word.
  induction width generalizing b offset with
  | zero => exact h
  | succ width ih =>
    have hlt := (b₀[offset]?.getD 0).toNat_lt
    have hbyte : UInt8.ofNat (word b₀ offset (width + 1)) = byteAt b₀ offset := by
      rw [word, ← UInt8.toNat_inj, UInt8.toNat_ofNat']
      show _ = (b₀[offset]?.getD 0).toNat
      omega
    have hrest : word b₀ offset (width + 1) / 256 = word b₀ (offset + 1) width := by
      rw [word]
      omega
    have hset : Alike (b.set! offset (byteAt b₀ offset)) b₀ := by
      intro j
      rw [byteAt_set!]
      split
      next hj => rw [hj.1]
      next => exact h j
    rw [Layout.setWord, hbyte, hrest]
    exact ih hset (offset + 1)

/-! ## Fields -/

/-- A word to be written somewhere. -/
structure Field where
  /-- Where it begins. -/
  offset : Nat
  /-- Its bytes. -/
  width : Nat
  /-- What is written. -/
  value : Nat

namespace Field

/-- The first offset behind the field. -/
def stop (f : Field) : Nat := f.offset + f.width

/-- Writes the field. -/
def write (bytes : ByteArray) (f : Field) : ByteArray := setWord bytes f.offset f.value f.width

/-- Two fields have no byte in common. -/
def Apart (f g : Field) : Prop := f.stop ≤ g.offset ∨ g.stop ≤ f.offset

/-- The field lies in a range of offsets. -/
def Within (lo hi : Nat) (f : Field) : Prop := lo ≤ f.offset ∧ f.stop ≤ hi

variable {fields fields' : List Field} {lo mid hi : Nat}

/-- Fields in a range of offsets that have no byte in common. -/
structure Block (lo hi : Nat) (fields : List Field) : Prop where
  within : ∀ f ∈ fields, f.Within lo hi
  pairwise : fields.Pairwise Apart

namespace Block

/-- A block lies within any greater range. -/
theorem mono {lo' hi' : Nat} (h : Block lo hi fields) (hlo : lo' ≤ lo) (hhi : hi ≤ hi') :
    Block lo' hi' fields :=
  ⟨fun f hf => ⟨hlo.trans (h.within f hf).1, (h.within f hf).2.trans hhi⟩, h.pairwise⟩

/-- One block stands behind another. -/
theorem append (h : Block lo mid fields) (h' : Block mid hi fields') (hlo : lo ≤ mid)
    (hhi : mid ≤ hi) : Block lo hi (fields ++ fields') where
  within := List.forall_mem_append.2 ⟨(h.mono le_rfl hhi).within, (h'.mono hlo le_rfl).within⟩
  pairwise := by
    refine List.pairwise_append.2 ⟨h.pairwise, h'.pairwise, fun f hf g hg => .inl ?_⟩
    exact (h.within f hf).2.trans (h'.within g hg).1

/-- Blocks of one size stand one behind the other. -/
theorem flatMap_finRange {n size : Nat} {f : Fin n → List Field}
    (h : ∀ i : Fin n, Block (lo + i * size) (lo + i * size + size) (f i)) :
    Block lo (lo + n * size) ((List.finRange n).flatMap f) where
  within := by
    intro g hg
    obtain ⟨i, -, hg⟩ := List.mem_flatMap.1 hg
    have hstop : (i + 1) * size ≤ n * size := Nat.mul_le_mul_right size i.isLt
    rw [Nat.add_mul, Nat.one_mul] at hstop
    exact ((h i).mono (Nat.le_add_right _ _) (by omega)).within g hg
  pairwise := by
    refine List.pairwise_flatMap.2 ⟨fun i _ => (h i).pairwise, ?_⟩
    refine (List.pairwise_lt_finRange n).imp fun {i j} hij g hg g' hg' => .inl ?_
    -- A later block begins where an earlier one has ended.
    have hstep : (i + 1) * size ≤ j * size := Nat.mul_le_mul_right size hij
    rw [Nat.add_mul, Nat.one_mul] at hstep
    exact ((h i).within g hg).2.trans (le_trans (by omega) ((h j).within g' hg').1)

end Block

/-- Fields that are written as they were read change no byte. -/
theorem alike_foldl_write {b b₀ : ByteArray} (h : Alike b b₀)
    (hread : ∀ f ∈ fields, f.value = word b₀ f.offset f.width) :
    Alike (fields.foldl write b) b₀ := by
  refine List.foldlRecOn (motive := fun b => Alike b b₀) _ _ h fun b hb f hf => ?_
  rw [write, hread f hf]
  exact hb.setWord f.offset f.width

/-- Fields that do not overlap a word leave it as it is. -/
theorem word_foldl_write_of_apart {f : Field} (h : ∀ g ∈ fields, f.Apart g) (bytes : ByteArray) :
    word (fields.foldl write bytes) f.offset f.width = word bytes f.offset f.width := by
  induction fields generalizing bytes with
  | nil => rfl
  | cons g fields ih =>
    rw [List.foldl_cons, ih fun g hg => h g (List.mem_cons_of_mem _ hg)]
    refine word_congr fun j hj hlt => byteAt_setWord_of_outside ?_ bytes g.value
    -- A field that is apart ends before the word begins, or begins behind it.
    rcases h g List.mem_cons_self with hbefore | hbehind
    · exact .inl (hlt.trans_le hbefore)
    · exact .inr (hbehind.trans hj)

/-- Fields within the file that have no byte in common are all read back. -/
theorem word_foldl_write (hblock : Block lo hi fields) {bytes : ByteArray} (hsize : hi ≤ bytes.size)
    {f : Field} (hf : f ∈ fields) :
    word (fields.foldl write bytes) f.offset f.width = f.value % 256 ^ f.width := by
  induction fields generalizing bytes with
  | nil => cases hf
  | cons g fields ih =>
    obtain ⟨hg, hrest⟩ := List.pairwise_cons.1 hblock.pairwise
    have hin := List.forall_mem_cons.1 hblock.within
    rw [List.foldl_cons]
    rcases List.mem_cons.1 hf with rfl | hf
    · -- What comes later does not touch the field that was just written.
      rw [word_foldl_write_of_apart hg]
      exact word_setWord (hin.1.2.trans hsize) f.value
    · refine ih ⟨hin.2, hrest⟩ ?_ hf
      rwa [write, size_setWord]

end Field

end Layout

end GpuQuota
