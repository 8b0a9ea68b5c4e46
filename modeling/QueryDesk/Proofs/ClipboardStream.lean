import QueryDesk.Clipboard
import QueryDesk.Proofs.Base64Text
import QueryDesk.Proofs.ScanStop

/-!
# The stream to the clipboard

A terminal takes a text for a selection from a frame: it opens with an escape, a bracket and the
number 52, names the selections, carries the bytes of the text in base 64 and stops with a bell, or
with an escape and a backslash. Frames that stand one after another can be told apart in one way
only. What is written for some texts is such a stream, and nothing in a text can stop its frame or
open another.
-/
namespace QueryDesk.Clipboard

open QueryDesk.Text (utf8 base64 readUtf8 readBase64 isBase64 append_stop_inj)

def escape : UInt8 := 0x1B

def bell : UInt8 := 0x07

/-- The sign between the parts of a frame. -/
def semicolon : UInt8 := 0x3B

/-- A frame and the text it carries: no semicolon is in the names of the selections, the payload is
read as the bytes of the text, and there are two ways to stop. -/
structure Frame where
  selections : List UInt8
  payload : List UInt8
  stop : List UInt8
  text : String
  separate : semicolon ∉ selections
  reads : (readBase64 payload).map readUtf8 = some (.ok text.toList)
  stops : stop = [bell] ∨ stop = [escape, 0x5C]

namespace Frame

/-- The bytes of a frame. -/
def bytes (frame : Frame) : List UInt8 :=
  [escape, 0x5D, 0x35, 0x32, semicolon] ++
    (frame.selections ++ semicolon :: (frame.payload ++ frame.stop))

/-- The payload has nothing but the signs of base 64. -/
theorem isBase64_of_mem (frame : Frame) : ∀ b ∈ frame.payload, isBase64 b = true := by
  obtain ⟨bytes, hbytes, -⟩ := Option.map_eq_some_iff.1 frame.reads
  exact Text.isBase64_of_readBase64 hbytes

/-- Neither of the bytes that stop a frame is in its payload. -/
theorem stop_notMem_payload (frame : Frame) :
    escape ∉ frame.payload ∧ bell ∉ frame.payload :=
  ⟨fun h => absurd (frame.isBase64_of_mem _ h) (by decide),
    fun h => absurd (frame.isBase64_of_mem _ h) (by decide)⟩

/-- The first byte behind the payload, and what is left of the stop. -/
theorem exists_stop (frame : Frame) :
    ∃ sign more, frame.stop = sign :: more ∧ isBase64 sign = false := by
  rcases frame.stops with hstop | hstop
  · exact ⟨bell, [], hstop, by decide⟩
  · exact ⟨escape, [0x5C], hstop, by decide⟩

variable {frame other : Frame} {rest more : List UInt8}

/-- A stop is told by its first byte. -/
theorem stop_inj (h : frame.stop ++ rest = other.stop ++ more) :
    frame.stop = other.stop ∧ rest = more := by
  rcases frame.stops with hstop | hstop <;> rcases other.stops with hother | hother <;>
    rw [hstop, hother] at h ⊢
  · exact ⟨rfl, (List.cons.inj h).2⟩
  · exact absurd (List.cons.inj h).1 (by decide)
  · exact absurd (List.cons.inj h).1 (by decide)
  · exact ⟨rfl, (List.cons.inj (List.cons.inj h).2).2⟩

/-- The text of a frame is told by its payload. -/
theorem text_eq (h : frame.payload = other.payload) : frame.text = other.text := by
  have hreads := frame.reads
  rw [h, other.reads] at hreads
  exact (String.toList_inj.1 (Except.ok.inj (Option.some.inj hreads))).symm

theorem eq_of_parts (hselections : frame.selections = other.selections)
    (hpayload : frame.payload = other.payload) (hstop : frame.stop = other.stop) :
    frame = other := by
  have htext : frame.text = other.text := text_eq hpayload
  cases frame
  cases other
  subst hselections hpayload hstop htext
  rfl

theorem bytes_append (frame : Frame) (rest : List UInt8) :
    frame.bytes ++ rest = [escape, 0x5D, 0x35, 0x32, semicolon] ++
      (frame.selections ++ semicolon :: (frame.payload ++ (frame.stop ++ rest))) := by
  simp [bytes]

/-- The first frame of a stream and what stands behind it are told apart in one way only: the
selections end at the first semicolon and the payload at the first byte that is not of base 64. -/
theorem bytes_append_inj (h : frame.bytes ++ rest = other.bytes ++ more) :
    frame = other ∧ rest = more := by
  rw [bytes_append, bytes_append] at h
  have hseparate (frame : Frame) : ∀ b ∈ frame.selections, (b != semicolon) = true :=
    fun b hb => bne_iff_ne.2 (ne_of_mem_of_not_mem hb frame.separate)
  obtain ⟨hselections, hbehind⟩ := append_stop_inj (hseparate frame) (by simp) (hseparate other)
    (by simp) (List.append_cancel_left h)
  obtain ⟨sign, left, hstop, hsign⟩ := frame.exists_stop
  obtain ⟨sign', left', hstop', hsign'⟩ := other.exists_stop
  have hpayloads := (List.cons.inj hbehind).2
  rw [hstop, hstop'] at hpayloads
  obtain ⟨hpayload, hstops⟩ := append_stop_inj frame.isBase64_of_mem hsign other.isBase64_of_mem
    hsign' hpayloads
  obtain ⟨hstopEq, hrest⟩ : frame.stop = other.stop ∧ rest = more := by
    apply stop_inj
    rw [hstop, hstop']
    exact hstops
  exact ⟨eq_of_parts hselections hpayload hstopEq, hrest⟩

/-- A stream of frames is told apart in one way only. -/
theorem flatMap_bytes_inj {frames others : List Frame}
    (h : frames.flatMap bytes = others.flatMap bytes) : frames = others := by
  induction frames generalizing others with
  | nil =>
    cases others with
    | nil => rfl
    | cons other others => cases h
  | cons frame frames ih =>
    cases others with
    | nil => cases h
    | cons other others =>
      obtain ⟨rfl, hmore⟩ := bytes_append_inj h
      rw [ih hmore]

/-- The frame that puts a text into the clipboard. -/
def ofText (text : String) : Frame where
  selections := [0x63]
  payload := utf8 (base64 (utf8 text.toList))
  stop := [bell]
  text := text
  separate := by decide
  reads := by rw [Text.readBase64_base64, Option.map_some, Text.readUtf8_utf8]
  stops := .inl rfl

theorem utf8_sequence (text : String) : utf8 (sequence text) = (ofText text).bytes := by
  rw [sequence, utf8, List.flatMap_append, List.flatMap_append, List.append_assoc]
  rfl

/-- The frame of a text has one escape, which opens it, and one bell, which stops it. -/
theorem count_ofText (text : String) :
    (ofText text).bytes.count escape = 1 ∧ (ofText text).bytes.count bell = 1 := by
  obtain ⟨hescape, hbell⟩ := (ofText text).stop_notMem_payload
  have hparts : (ofText text).bytes = [escape, 0x5D, 0x35, 0x32, semicolon, 0x63, semicolon] ++
      ((ofText text).payload ++ [bell]) := rfl
  rw [hparts, List.count_append, List.count_append, List.count_append, List.count_append,
    List.count_eq_zero.2 hescape, List.count_eq_zero.2 hbell]
  decide

end Frame

/-- The bytes that are written for several texts one after another. -/
def written (texts : List String) : List UInt8 := utf8 (sequences texts)

theorem written_eq (texts : List String) :
    written texts = (texts.map Frame.ofText).flatMap Frame.bytes := by
  rw [written, sequences, utf8, List.flatMap_assoc, List.flatMap_map]
  exact congrArg texts.flatMap (funext Frame.utf8_sequence)

/-- A byte that is once in each frame is as often in the stream as there are texts. -/
theorem count_written {b : UInt8} (h : ∀ text, (Frame.ofText text).bytes.count b = 1)
    (texts : List String) : (written texts).count b = texts.length := by
  rw [written_eq]
  induction texts with
  | nil => rfl
  | cons text texts ih =>
    rw [List.map_cons, List.flatMap_cons, List.count_append, h, ih, List.length_cons, Nat.add_comm]

/-- What is written for some texts is a stream of frames in one way only, and its frames carry
exactly the texts. No payload has an escape or a bell, and the stream has one of each for a text,
those that open and stop its frame. -/
theorem written_read_back (texts : List String) :
    (∀ frames : List Frame,
      frames.flatMap Frame.bytes = written texts ↔ frames = texts.map Frame.ofText) ∧
    (texts.map Frame.ofText).map Frame.text = texts ∧
    (∀ frame : Frame, escape ∉ frame.payload ∧ bell ∉ frame.payload) ∧
    (written texts).count escape = texts.length ∧ (written texts).count bell = texts.length := by
  refine ⟨fun frames => ⟨fun h => ?_, fun h => ?_⟩, ?_, Frame.stop_notMem_payload,
    count_written (fun text => (Frame.count_ofText text).1) texts,
    count_written (fun text => (Frame.count_ofText text).2) texts⟩
  · rw [written_eq] at h
    exact Frame.flatMap_bytes_inj h
  · rw [h, written_eq]
  · rw [List.map_map]
    exact List.map_id texts

end QueryDesk.Clipboard
