import Proctor.Machine.SharedFile
import Mathlib.Data.List.Induction
import Mathlib.Data.List.Infix

/-!
# What a capture file keeps

The harness and everybody who writes into a capture file share one offset. To read the file the
harness moves the offset to the beginning, and until its reads have come to the end again every
write goes over what was written before. Without such a write the file keeps everything, and every
drain returns all that was written before it began. After such a write bytes are missing for good,
from the drain that it came into and from all later ones.
-/
namespace Proctor.Machine

namespace SharedFile
variable (f : SharedFile)

@[simp] theorem write_offset (bytes : Array UInt8) :
    (f.write bytes).offset = f.offset + bytes.size := rfl

@[simp] theorem seek_content (offset : Nat) : (f.seek offset).content = f.content := rfl

@[simp] theorem seek_offset (offset : Nat) : (f.seek offset).offset = offset := rfl

@[simp] theorem read_content (count : Nat) : (f.read count).2.content = f.content := rfl

@[simp] theorem read_offset (count : Nat) :
    (f.read count).2.offset = f.offset + (f.read count).1.size := rfl

theorem read_toList (count : Nat) :
    (f.read count).1.toList = (f.content.toList.drop f.offset).take count := by
  simp [read, List.take_drop]

theorem read_size (count : Nat) :
    (f.read count).1.size = min count (f.content.size - f.offset) := by
  simp only [read, Array.size_extract]
  omega

variable {f}

/-- A write at the end makes the file longer by what was written. -/
theorem write_content (h : f.offset = f.content.size) (bytes : Array UInt8) :
    (f.write bytes).content = f.content ++ bytes := by
  simp [write, h]

/-- Writing nothing changes nothing. -/
theorem write_empty (h : f.offset ≤ f.content.size) : f.write #[] = f := by
  have hgap : f.offset - f.content.size = 0 := by omega
  simp [write, hgap, h]

theorem write_size (h : f.offset ≤ f.content.size) (bytes : Array UInt8) :
    (f.write bytes).content.size = max f.content.size (f.offset + bytes.size) := by
  simp only [write]
  split
  · simp only [Array.size_append]
    omega
  · simp only [Array.size_append, Array.size_extract, Array.size_replicate]
    omega

end SharedFile

/-- What happens to a capture file. -/
inductive Act where
  /-- Somebody who has a handle of the file writes into it. -/
  | write (bytes : List UInt8)
  /-- The harness takes the next step of its drain, or the first one of the next drain. If that is a
  read, it asks for one byte more than the number says. -/
  | drain (count : Nat)

/-- A capture file with the drain that the harness is at, and with what is to be kept. -/
structure Capture where
  file : SharedFile := {}
  drain : Drain := .fresh
  /-- Everything that was written, in the order of the writes. -/
  written : List UInt8 := []
  /-- What had been written when the latest drain began. -/
  before : List UInt8 := []

namespace Capture

/-- What an act does. -/
def step (c : Capture) : Act → Capture
  | .write bytes => { c with file := c.file.write bytes.toArray, written := c.written ++ bytes }
  | .drain count =>
    match c.drain with
    | .reading bytes =>
      let (drain, file) := (Drain.reading bytes).step (count + 1) c.file
      { c with drain, file }
    | _ =>
      let (drain, file) := Drain.fresh.step (count + 1) c.file
      { c with drain, file, before := c.written }

/-- A new capture file after some acts. -/
def run (acts : List Act) : Capture := acts.foldl step {}

@[simp] theorem run_append_singleton (acts : List Act) (act : Act) :
    run (acts ++ [act]) = (run acts).step act := by
  simp [run]

/-- A write that goes over what was written before. -/
def Overwrites (c : Capture) : Act → Prop
  | .write bytes => bytes ≠ [] ∧ c.file.offset < c.file.content.size
  | .drain _ => False

/-- None of some acts goes over what was written before. -/
def Intact (acts : List Act) : Prop :=
  ∀ earlier act later, acts = earlier ++ act :: later → ¬ (run earlier).Overwrites act

theorem intact_append_singleton {acts : List Act} {act : Act} :
    Intact (acts ++ [act]) ↔ Intact acts ∧ ¬ (run acts).Overwrites act := by
  constructor
  · intro h
    refine ⟨fun earlier a later hsplit => ?_, h acts act [] rfl⟩
    exact h earlier a (later ++ [act]) (by rw [hsplit]; simp)
  · rintro ⟨h, hlast⟩ earlier a later hsplit
    obtain rfl | ⟨later, last, rfl⟩ := later.eq_nil_or_concat
    · obtain ⟨rfl, ha⟩ := List.append_inj' hsplit rfl
      obtain rfl := List.singleton_inj.mp ha
      exact hlast
    · rw [List.concat_eq_append, ← List.cons_append, ← List.append_assoc] at hsplit
      exact h earlier a later (List.append_inj' hsplit rfl).1

/-- The file has kept everything. -/
def Kept (c : Capture) : Prop := c.file.content.toList = c.written

/-- The bytes from the offset to the end of the file. -/
def ahead (c : Capture) : Nat := c.file.content.size - c.file.offset

/-- What is true of a capture file at all times. The bytes that a drain has read and those that are
still to be read make up all that had been written when it began, but for the ones that are missing
from the file. -/
structure Sound (c : Capture) : Prop where
  offset_le : c.file.offset ≤ c.file.content.size
  kept_or_short : c.Kept ∨ c.file.content.size < c.written.length
  count : c.drain.bytes.size + c.ahead + c.written.length =
    c.before.length + c.file.content.size
  complete : c.Kept → c.drain.bytes.toList ++ c.file.content.toList.drop c.file.offset = c.before
  done : ∀ bytes, c.drain = .done bytes → c.file.offset = c.file.content.size

variable {c : Capture}

/-- A drain goes on with a read, which is its last one if it brings nothing. -/
theorem step_read {bytes : Array UInt8} (h : c.drain = .reading bytes) (count : Nat) :
    c.step (.drain count) = { c with
      drain := if (c.file.read (count + 1)).1.isEmpty then .done bytes
        else .reading (bytes ++ (c.file.read (count + 1)).1)
      file := (c.file.read (count + 1)).2 } := by
  simp [step, h, Drain.step]

/-- A drain begins when no other one is under way. -/
theorem step_begin (h : ∀ bytes, c.drain ≠ .reading bytes) (count : Nat) :
    c.step (.drain count) =
      { c with drain := .reading #[], file := c.file.seek 0, before := c.written } := by
  cases hdrain : c.drain with
  | fresh | done _ => simp [step, hdrain, Drain.step]
  | reading bytes => exact absurd hdrain (h bytes)

theorem sound_new : ({} : Capture).Sound where
  offset_le := Nat.le_refl 0
  kept_or_short := .inl rfl
  count := rfl
  complete := fun _ => rfl
  done := nofun

/-- A file that has not kept everything is shorter than what was written. -/
theorem Sound.kept_iff (h : c.Sound) : c.Kept ↔ c.file.content.size = c.written.length := by
  constructor
  · intro hkept
    rw [← Array.length_toList, hkept]
  · intro hsize
    obtain hkept | hshort := h.kept_or_short
    · exact hkept
    · omega

/-- A write at the end of the file keeps everything that the file has kept. -/
theorem Sound.append (h : c.Sound) (hend : c.file.offset = c.file.content.size)
    (bytes : List UInt8) :
    (c.step (.write bytes)).Sound ∧ ((c.step (.write bytes)).Kept ↔ c.Kept) := by
  have hcontent : (c.step (.write bytes)).file.content = c.file.content ++ bytes.toArray :=
    SharedFile.write_content hend _
  have hoffset : (c.step (.write bytes)).file.offset = c.file.content.size + bytes.length := by
    rw [← hend]
    rfl
  have hwritten : (c.step (.write bytes)).written = c.written ++ bytes := rfl
  have hkept : (c.step (.write bytes)).Kept ↔ c.Kept := by
    rw [Kept, hcontent, hwritten, Array.toList_append, List.append_left_inj, Kept]
  have hsize : (c.step (.write bytes)).file.content.size = c.file.content.size + bytes.length := by
    rw [hcontent, Array.size_append]
    rfl
  refine ⟨⟨by omega, ?_, ?_, ?_, fun _ _ => by omega⟩, hkept⟩
  · rw [hkept, hsize, hwritten, List.length_append]
    exact h.kept_or_short.imp id fun hshort => by omega
  · have hcount := h.count
    rw [ahead, hsize, hoffset, hwritten, List.length_append]
    rw [ahead] at hcount
    change c.drain.bytes.size + _ + _ = c.before.length + _
    omega
  · intro hafter
    have hexact := h.complete (hkept.mp hafter)
    have hall : c.file.content.toList.length ≤ c.file.offset := by
      rw [Array.length_toList, hend]
    rw [List.drop_eq_nil_of_le hall] at hexact
    have hall' : (c.step (.write bytes)).file.content.toList.length ≤
        (c.step (.write bytes)).file.offset := by
      rw [Array.length_toList, hsize, hoffset]
    rw [List.drop_eq_nil_of_le hall']
    exact hexact

/-- A write before the end of the file makes it shorter than what was written. -/
theorem Sound.overwrite (h : c.Sound) (hbefore : c.file.offset < c.file.content.size)
    {bytes : List UInt8} (hbytes : bytes ≠ []) :
    (c.step (.write bytes)).Sound ∧ ¬ (c.step (.write bytes)).Kept := by
  have hlength : 0 < bytes.length := List.length_pos_iff.mpr hbytes
  have hwritten : (c.step (.write bytes)).written = c.written ++ bytes := rfl
  have hoffset : (c.step (.write bytes)).file.offset = c.file.offset + bytes.length := rfl
  have hsize : (c.step (.write bytes)).file.content.size =
      max c.file.content.size (c.file.offset + bytes.length) := by
    exact SharedFile.write_size h.offset_le bytes.toArray
  have hle : c.file.content.size ≤ c.written.length := by
    obtain hkept | hshort := h.kept_or_short
    · exact (h.kept_iff.mp hkept).le
    · omega
  have hshort : (c.step (.write bytes)).file.content.size <
      (c.step (.write bytes)).written.length := by
    rw [hsize, hwritten, List.length_append]
    omega
  have hlost : ¬ (c.step (.write bytes)).Kept := by
    intro hkept
    rw [← Array.length_toList, hkept] at hshort
    omega
  refine ⟨⟨by omega, .inr hshort, ?_, fun hkept => absurd hkept hlost, fun all hdone => ?_⟩, hlost⟩
  · have hcount := h.count
    rw [ahead, hsize, hoffset, hwritten, List.length_append]
    rw [ahead] at hcount
    change c.drain.bytes.size + _ + _ = c.before.length + _
    omega
  · have := h.done all hdone
    omega

/-- A read takes bytes from those that are before the drain to those that it has read. -/
theorem Sound.read (h : c.Sound) {bytes : Array UInt8} (hdrain : c.drain = .reading bytes)
    (count : Nat) : (c.step (.drain count)).Sound := by
  have hsize := c.file.read_size (count + 1)
  have hprefix : (c.file.read (count + 1)).1.toList <+:
      c.file.content.toList.drop c.file.offset := by
    rw [SharedFile.read_toList]
    exact List.take_prefix _ _
  have hread : (c.step (.drain count)).drain.bytes = bytes ++ (c.file.read (count + 1)).1 := by
    rw [step_read hdrain]
    dsimp only
    split
    · rename_i hnone
      rw [Array.isEmpty_iff.mp hnone, Array.append_empty]
      rfl
    · rfl
  have hcount := h.count
  have hexact := h.complete
  rw [hdrain] at hcount hexact
  rw [step_read hdrain] at hread ⊢
  refine ⟨?_, h.kept_or_short, ?_, fun hkept => ?_, fun all hdone => ?_⟩
  · rw [SharedFile.read_offset, SharedFile.read_content]
    have := h.offset_le
    omega
  · rw [hread, Array.size_append, ahead, SharedFile.read_offset, SharedFile.read_content]
    change bytes.size + c.ahead + c.written.length = c.before.length + _ at hcount
    rw [ahead] at hcount
    dsimp only
    omega
  · rw [hread, Array.toList_append, SharedFile.read_offset, SharedFile.read_content,
      List.append_assoc, ← List.drop_drop, ← Array.length_toList,
      List.prefix_iff_eq_append.mp hprefix]
    exact hexact hkept
  · rw [SharedFile.read_offset, SharedFile.read_content]
    have hnone : (c.file.read (count + 1)).1.size = 0 := by
      dsimp only at hdone
      split at hdone
      · rename_i hnone
        rw [Array.isEmpty_iff.mp hnone]
        rfl
      · cases hdone
    have := h.offset_le
    omega

theorem Sound.begin (h : c.Sound) (hdrain : ∀ bytes, c.drain ≠ .reading bytes) (count : Nat) :
    (c.step (.drain count)).Sound := by
  rw [step_begin hdrain]
  refine ⟨Nat.zero_le _, h.kept_or_short, ?_, fun hkept => ?_, nofun⟩
  · simp [Drain.bytes, ahead, Nat.add_comm]
  · have hkept : c.file.content.toList = c.written := hkept
    simpa [Drain.bytes] using hkept

theorem drain_kept_iff (count : Nat) : (c.step (.drain count)).Kept ↔ c.Kept := by
  cases hdrain : c.drain with
  | reading bytes =>
    rw [step_read hdrain]
    rfl
  | fresh | done _ =>
    rw [step_begin (by rw [hdrain]; nofun)]
    rfl

/-- Every act leaves a sound file sound, and only a write before the end of a file that has kept
everything loses something. -/
theorem Sound.step (h : c.Sound) (act : Act) :
    (c.step act).Sound ∧ ((c.step act).Kept ↔ c.Kept ∧ ¬ c.Overwrites act) := by
  cases act with
  | write bytes =>
    by_cases hend : c.file.offset = c.file.content.size
    · obtain ⟨hsound, hkept⟩ := h.append hend bytes
      refine ⟨hsound, ?_⟩
      simp [hkept, Overwrites, hend]
    · have hbefore : c.file.offset < c.file.content.size := Nat.lt_of_le_of_ne h.offset_le hend
      by_cases hbytes : bytes = []
      · subst hbytes
        have hsame : c.step (.write []) = c := by
          simp [Capture.step, SharedFile.write_empty h.offset_le]
        rw [hsame]
        simp [h, Overwrites]
      · obtain ⟨hsound, hlost⟩ := h.overwrite hbefore hbytes
        exact ⟨hsound, iff_of_false hlost fun hkept => hkept.2 ⟨hbytes, hbefore⟩⟩
  | drain count =>
    have hkept : (c.step (.drain count)).Kept ↔ c.Kept ∧ ¬ c.Overwrites (.drain count) := by
      rw [drain_kept_iff]
      simp [Overwrites]
    refine ⟨?_, hkept⟩
    cases hdrain : c.drain with
    | reading bytes => exact h.read hdrain count
    | fresh | done _ => exact h.begin (by rw [hdrain]; nofun) count

theorem run_sound (acts : List Act) :
    (run acts).Sound ∧ ((run acts).Kept ↔ Intact acts) := by
  induction acts using List.reverseRecOn with
  | nil => exact ⟨sound_new, iff_of_true rfl fun _ _ _ hsplit => by simp at hsplit⟩
  | append_singleton acts act ih =>
    rw [run_append_singleton, intact_append_singleton, ← ih.2]
    exact ih.1.step act

theorem Sound.ahead_write_le (h : c.Sound) (bytes : List UInt8) :
    (c.step (.write bytes)).ahead ≤ c.ahead := by
  change (c.file.write bytes.toArray).content.size - (c.file.write bytes.toArray).offset ≤ _
  rw [SharedFile.write_size h.offset_le, SharedFile.write_offset, ahead]
  omega

theorem ahead_read {bytes : Array UInt8} (hdrain : c.drain = .reading bytes) (count : Nat) :
    (c.step (.drain count)).ahead = c.ahead - (c.file.read (count + 1)).1.size := by
  rw [step_read hdrain]
  simp only [ahead, SharedFile.read_content, SharedFile.read_offset]
  omega

/-- Whatever is written while a drain is under way, the drain comes to its end once it has taken
more steps than there are bytes ahead of it. -/
theorem Sound.drain_ends (h : c.Sound) {bytes : Array UInt8} (hdrain : c.drain = .reading bytes)
    (acts : List Act) (hmany : c.ahead < acts.countP (· matches .drain _)) :
    ∃ earlier later all, acts = earlier ++ later ∧
      (earlier.foldl Capture.step c).drain = .done all := by
  induction acts generalizing c bytes with
  | nil => simp at hmany
  | cons act acts ih =>
    have hsound := (h.step act).1
    cases act with
    | write more =>
      have hmany : c.ahead < acts.countP (· matches .drain _) := by simpa using hmany
      have hnext := h.ahead_write_le more
      obtain ⟨earlier, later, all, rfl, hdone⟩ := ih hsound hdrain (by omega)
      exact ⟨.write more :: earlier, later, all, rfl, hdone⟩
    | drain count =>
      by_cases hnone : (c.file.read (count + 1)).1.isEmpty
      · refine ⟨[.drain count], acts, bytes, rfl, ?_⟩
        simp [step_read hdrain, hnone]
      · have hmany : c.ahead < acts.countP (· matches .drain _) + 1 := by simpa using hmany
        have hsize : 0 < (c.file.read (count + 1)).1.size :=
          Array.size_pos_iff.mpr (by simpa using hnone)
        have hread : (c.file.read (count + 1)).1.size ≤ c.ahead := by
          rw [SharedFile.read_size]
          exact Nat.min_le_right _ _
        have hahead := ahead_read hdrain count
        have hnext : (c.step (.drain count)).drain =
            .reading (bytes ++ (c.file.read (count + 1)).1) := by
          simp [step_read hdrain, hnone]
        obtain ⟨earlier, later, all, rfl, hdone⟩ := ih hsound hnext (by omega)
        exact ⟨.drain count :: earlier, later, all, rfl, hdone⟩

/-- A capture file holds everything that was written, and a drain that has come to its end begins
with everything that had been written before it, exactly as long as no write came before the end of
the file. Otherwise the drain lacks as many bytes as the file does. -/
theorem run_keeps_iff (acts : List Act) :
    ((run acts).file.content.toList = (run acts).written ↔ Intact acts) ∧
      ∀ bytes, (run acts).drain = .done bytes →
        ((run acts).before <+: bytes.toList ↔ Intact acts) ∧
          bytes.size + (run acts).written.length =
            (run acts).before.length + (run acts).file.content.size := by
  obtain ⟨hsound, hkept⟩ := run_sound acts
  refine ⟨hkept, fun bytes hdone => ?_⟩
  have hend := hsound.done bytes hdone
  have hcount := hsound.count
  have hexact := hsound.complete
  rw [hdone] at hcount hexact
  have hall : (run acts).file.content.toList.length ≤ (run acts).file.offset := by
    rw [Array.length_toList, hend]
  have hcount : bytes.size + (run acts).written.length =
      (run acts).before.length + (run acts).file.content.size := by
    change bytes.size + (run acts).ahead + _ = _ at hcount
    rw [ahead] at hcount
    omega
  refine ⟨?_, hcount⟩
  rw [← hkept]
  constructor
  · intro hprefix
    have hlength := hprefix.length_le
    rw [Array.length_toList] at hlength
    obtain hkept | hshort := hsound.kept_or_short
    · exact hkept
    · omega
  · intro h
    have hexact := hexact h
    rw [List.drop_eq_nil_of_le hall, List.append_nil] at hexact
    rw [← hexact]
    exact List.prefix_refl _

/-- A byte is written after a drain has begun and before it has read anything. -/
def lateWrite : List Act := [.write [65], .drain 0, .write [66], .drain 0]

/-- The drain returns nothing, and the byte that had been written before it is lost. -/
theorem lateWrite_loses : (run lateWrite).drain = .done #[] ∧ (run lateWrite).before = [65] ∧
    (run lateWrite).written = [65, 66] ∧ (run lateWrite).file.content = #[66] := by
  decide +kernel

/-- The same byte is written after the drain has read to the end. -/
def earlyDrain : List Act := [.write [65], .drain 0, .drain 0, .write [66], .drain 0]

theorem run_keeps_iff_earlyDrain : (run earlyDrain).drain = .done #[65] ∧
    ((run earlyDrain).file.content.toList = (run earlyDrain).written ↔ Intact earlyDrain) ∧
      ((run earlyDrain).before <+: [65] ↔ Intact earlyDrain) := by
  have hdone : (run earlyDrain).drain = .done #[65] := by decide +kernel
  obtain ⟨hkept, hdrained⟩ := run_keeps_iff earlyDrain
  exact ⟨hdone, hkept, (hdrained #[65] hdone).1⟩

end Capture
end Proctor.Machine
