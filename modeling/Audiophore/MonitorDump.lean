import Audiophore.OscIngress
import Audiophore.SacnOutput
import Audiophore.TextRecords

/-!
# The raw dump of the monitor

`walk_for_raw` in `audiophore-cli/src/main.rs`: one line for each message of a packet. The
text of floats and socket addresses is a parameter, and what goes to the standard output is
the result.
-/

namespace MonitorDump

open AudiophoreCore OscIngress SacnOutput TextRecords

/-- How the standard library writes a float and a socket address. `Flt` has one zero, so both
zeros of a format are written alike. -/
structure Display where
  f32 : F32 → String
  f64 : F64 → String
  socketAddr : SocketAddr → String

variable (d : Display)

def truncateStr (s : String) (n : Nat) : String :=
  if s.toList.length ≤ n then s
  else
    let head := String.ofList (s.toList.take n)
    head ++ "…"

/-- A byte as two hexadecimal digits, `{:02x}`. -/
def hex02 (b : UInt8) : String :=
  String.ofList [Nat.digitChar (b.toNat / 16), Nat.digitChar (b.toNat % 16)]

/-- What the loop of `fmt_args` writes for one argument. -/
def fmtArg : OscType → String
  | .float v => "f:" ++ d.f32 v
  | .double v => "d:" ++ d.f64 v
  | .int v => "i:" ++ v.toInt.repr
  | .long v => "h:" ++ v.toInt.repr
  | .bool v => "b:" ++ toString v
  | .string s => "s:" ++ truncateStr s 32
  | .char c => "c:" ++ String.singleton c
  | .color c => "r:" ++ hex02 c.red ++ hex02 c.green ++ hex02 c.blue ++ hex02 c.alpha
  | .blob bytes => "blob[" ++ bytes.length.repr ++ "]"
  | .time _ => "t:<timetag>"
  | .midi _ => "m:<midi>"
  | .array content => "a[" ++ content.length.repr ++ "]"
  | .nil => "N"
  | .inf => "I"

def fmtArgsFrom (out : String) (i : Nat) : List OscType → String
  | [] => out
  | arg :: rest =>
    let out := if 0 < i then out.push ' ' else out
    fmtArgsFrom (out ++ fmtArg d arg) (i + 1) rest

def fmtArgs (args : List OscType) : String := fmtArgsFrom d "" 0 args

def println (line : String) : String := line ++ "\n"

mutual
def walkForRaw (peer : SocketAddr) : OscPacket → String
  | .message msg =>
    println ("raw\t" ++ d.socketAddr peer ++ "\t" ++ msg.addr ++ "\t" ++ fmtArgs d msg.args)
  | .bundle _ content => walkContent peer content

def walkContent (peer : SocketAddr) : List OscPacket → String
  | [] => ""
  | inner :: rest => walkForRaw peer inner ++ walkContent peer rest
end

/-! ## The text as a table -/

/-- The columns that stand for a message. -/
def record (peer : SocketAddr) (msg : OscMessage) : List (List Char) :=
  ["raw".toList, (d.socketAddr peer).toList, msg.addr.toList, (fmtArgs d msg.args).toList]

mutual
theorem toList_walkForRaw (peer : SocketAddr) (packet : OscPacket) :
    (walkForRaw d peer packet).toList =
      write '\n' '\t' ((messages packet).map (record d peer)) := by
  cases packet with
  | message msg => simp [walkForRaw, println, messages, write, unlines, record]
  | bundle timetag content => exact toList_walkContent peer content

theorem toList_walkContent (peer : SocketAddr) (content : List OscPacket) :
    (walkContent d peer content).toList =
      write '\n' '\t' ((contentMessages content).map (record d peer)) := by
  cases content with
  | nil => rfl
  | cons inner rest =>
    rw [walkContent, contentMessages, String.toList_append, toList_walkForRaw peer inner,
      toList_walkContent peer rest, List.map_append, write_append]
end

/-- Neither a newline nor a tab. -/
abbrev Plain (s : String) : Prop := Clean '\n' '\t' s.toList

structure Display.Plain (d : Display) : Prop where
  f32 : ∀ v, MonitorDump.Plain (d.f32 v)
  f64 : ∀ v, MonitorDump.Plain (d.f64 v)
  socketAddr : ∀ addr, MonitorDump.Plain (d.socketAddr addr)

/-- An argument that shows neither a newline nor a tab. -/
def PlainArg : OscType → Prop
  | .string s => Clean '\n' '\t' (s.toList.take 32)
  | .char c => c ≠ '\n' ∧ c ≠ '\t'
  | _ => True

structure PlainMessage (msg : OscMessage) : Prop where
  addr : Plain msg.addr
  args : ∀ arg ∈ msg.args, PlainArg arg

theorem plain_append (s t : String) : Plain (s ++ t) ↔ Plain s ∧ Plain t := by
  rw [Plain, String.toList_append, clean_append]

theorem plain_truncateStr_iff (s : String) (n : Nat) :
    Plain (truncateStr s n) ↔ Clean '\n' '\t' (s.toList.take n) := by
  unfold truncateStr
  split
  · rename_i hshort
    rw [List.take_of_length_le hshort]
  · have hdots : Plain "…" := by decide
    rw [plain_append, and_iff_left hdots, Plain, String.toList_ofList]

/-- Digits are neither of the two. -/
theorem plain_repr (n : Nat) : Plain n.repr := by
  have hdigit : ∀ c ∈ n.repr.toList, c.isDigit = true := by
    rw [Nat.toList_repr]
    exact fun c hc => Nat.isDigit_of_mem_toDigits (by decide) (by decide) hc
  constructor
  · exact fun h => absurd (hdigit _ h) (by decide)
  · exact fun h => absurd (hdigit _ h) (by decide)

theorem plain_length {tag : String} (h : Plain tag) (n : Nat) : Plain (tag ++ n.repr ++ "]") := by
  have hclose : Plain "]" := by decide
  rw [plain_append, plain_append]
  exact ⟨⟨h, plain_repr n⟩, hclose⟩

theorem plain_int_repr (v : Int) : Plain v.repr := by
  cases v with
  | ofNat n => exact plain_repr n
  | negSucc n =>
    have hminus : Plain "-" := by decide
    exact (plain_append _ _).mpr ⟨hminus, plain_repr _⟩

theorem plain_hex02 (b : UInt8) : Plain (hex02 b) := by
  have hdigit : ∀ n, Nat.digitChar n ≠ '\n' ∧ Nat.digitChar n ≠ '\t' := fun n =>
    ⟨Nat.digitChar_ne _ (by decide), Nat.digitChar_ne _ (by decide)⟩
  simp only [Plain, hex02, String.toList_ofList, Clean, List.mem_cons, List.not_mem_nil, or_false,
    not_or]
  exact ⟨⟨(hdigit _).1.symm, (hdigit _).1.symm⟩, (hdigit _).2.symm, (hdigit _).2.symm⟩

section Fields
variable {d} (plain : d.Plain)
include plain

/-- Only the text of a string or a character can bring one of the two into an argument. -/
theorem plain_fmtArg_iff (arg : OscType) : Plain (fmtArg d arg) ↔ PlainArg arg := by
  have htag : ∀ {tag text : String}, Plain tag → (Plain (tag ++ text) ↔ Plain text) :=
    fun h => (plain_append _ _).trans (and_iff_right h)
  cases arg with
  | float v => exact iff_of_true ((htag (by decide)).mpr (plain.f32 v)) trivial
  | double v => exact iff_of_true ((htag (by decide)).mpr (plain.f64 v)) trivial
  | int v => exact iff_of_true ((htag (by decide)).mpr (plain_int_repr _)) trivial
  | long v => exact iff_of_true ((htag (by decide)).mpr (plain_int_repr _)) trivial
  | bool v =>
    have hbool : Plain (toString v) := by cases v <;> decide
    exact iff_of_true ((htag (by decide)).mpr hbool) trivial
  | string s => exact (htag (by decide)).trans (plain_truncateStr_iff s 32)
  | char c =>
    refine (htag (by decide)).trans ?_
    simp [Plain, PlainArg, Clean, eq_comm]
  | color c =>
    refine iff_of_true ?_ trivial
    simp only [fmtArg, plain_append, plain_hex02, and_true]
    decide
  | blob bytes => exact iff_of_true (plain_length (by decide) _) trivial
  | time t => exact iff_of_true (show Plain "t:<timetag>" by decide) trivial
  | midi m => exact iff_of_true (show Plain "m:<midi>" by decide) trivial
  | array content => exact iff_of_true (plain_length (by decide) _) trivial
  | nil => exact iff_of_true (show Plain "N" by decide) trivial
  | inf => exact iff_of_true (show Plain "I" by decide) trivial

theorem plain_fmtArgs_iff (args : List OscType) :
    Plain (fmtArgs d args) ↔ ∀ arg ∈ args, PlainArg arg := by
  have hloop : ∀ out i, Plain (fmtArgsFrom d out i args) ↔
      Plain out ∧ ∀ arg ∈ args, PlainArg arg := by
    induction args with
    | nil => simp [fmtArgsFrom]
    | cons arg rest ih =>
      intro out i
      have hspace : Plain (if 0 < i then out.push ' ' else out) ↔ Plain out := by
        split
        · simp [Plain, Clean]
        · rfl
      rw [fmtArgsFrom, ih, plain_append, hspace, plain_fmtArg_iff plain, List.forall_mem_cons,
        and_assoc]
  have hempty : Plain "" := by decide
  exact (hloop "" 0).trans (and_iff_right hempty)

theorem clean_record_iff (peer : SocketAddr) (msg : OscMessage) :
    (∀ cell ∈ record d peer msg, Clean '\n' '\t' cell) ↔ PlainMessage msg := by
  have hraw : Plain "raw" := by decide
  simp only [record, List.forall_mem_cons]
  constructor
  · rintro ⟨-, -, haddr, hargs, -⟩
    exact ⟨haddr, (plain_fmtArgs_iff plain msg.args).mp hargs⟩
  · intro h
    exact ⟨hraw, plain.socketAddr peer, h.addr, (plain_fmtArgs_iff plain msg.args).mpr h.args,
      by simp⟩

theorem read_dump (peer : SocketAddr) {packet : OscPacket}
    (h : ∀ msg ∈ messages packet, PlainMessage msg) :
    (lines '\n' (walkForRaw d peer packet).toList).map (·.splitOn '\t') =
      (messages packet).map (record d peer) := by
  rw [toList_walkForRaw]
  refine read_write (by decide) (by simp [record]) ?_
  simpa only [List.forall_mem_map, clean_record_iff plain] using h

/-- Packets of plain messages that print alike hold the same records in the same order. -/
theorem records_eq_of_same_dump {peer : SocketAddr} {packet other : OscPacket}
    (h : ∀ msg ∈ messages packet, PlainMessage msg)
    (hother : ∀ msg ∈ messages other, PlainMessage msg)
    (same : walkForRaw d peer packet = walkForRaw d peer other) :
    (messages packet).map (record d peer) = (messages other).map (record d peer) := by
  rw [← read_dump plain peer h, same, read_dump plain peer hother]

end Fields

/-! ## One record per message -/

/-- The printed text is one terminated line for each message, depth first, and the columns
of a line are `raw`, the peer, the address and the arguments. -/
structure OneRecordPerMessage (d : Display) (peer : SocketAddr) (packet : OscPacket) : Prop where
  terminated : Terminated '\n' (walkForRaw d peer packet).toList
  count : (lines '\n' (walkForRaw d peer packet).toList).length = (messages packet).length
  columns : ∀ line ∈ lines '\n' (walkForRaw d peer packet).toList, (line.splitOn '\t').length = 4
  in_order : (lines '\n' (walkForRaw d peer packet).toList).map (·.splitOn '\t') =
    (messages packet).map (record d peer)

/-- A dump keeps its records apart exactly when no message of the packet shows a newline or
a tab. -/
theorem one_record_per_message_iff {d : Display} (plain : d.Plain) (peer : SocketAddr)
    (packet : OscPacket) :
    OneRecordPerMessage d peer packet ↔ ∀ msg ∈ messages packet, PlainMessage msg := by
  have hmarks : '\n' ≠ '\t' := by decide
  have htext := toList_walkForRaw d peer packet
  have hwidth : ∀ row ∈ (messages packet).map (record d peer), row.length = 4 := by simp [record]
  have hshape := shape_write_iff hmarks (by decide) hwidth
  simp only [List.length_map, List.forall_mem_map, clean_record_iff plain, ← htext] at hshape
  constructor
  · exact fun h => hshape.mp ⟨h.count, h.columns⟩
  · intro h
    obtain ⟨hcount, hcolumns⟩ := hshape.mpr h
    exact ⟨htext ▸ terminated_write _, hcount, hcolumns, read_dump plain peer h⟩

def samplePeer : SocketAddr := ⟨.v4 ⟨[10, 20, 30, 40], rfl⟩, 9000⟩

/-- The texts of `120`, `0.5` and the peer, whatever is asked for. -/
def sampleDisplay : Display := ⟨fun _ => "120", fun _ => "0.5", fun _ => "10.20.30.40:9000"⟩

theorem sampleDisplay_plain : sampleDisplay.Plain :=
  ⟨fun _ => show Plain "120" by decide, fun _ => show Plain "0.5" by decide,
    fun _ => show Plain "10.20.30.40:9000" by decide⟩

/-- A bundle in a bundle, with a float and a string of two words. -/
def nestedPacket : OscPacket :=
  .bundle ⟨0, 1⟩ [.message ⟨"/audio/bpm/bpm", [.float (.fin 120)]⟩,
    .bundle ⟨0, 1⟩ [.message ⟨"/scene", [.string "blue sky", .int (-1)]⟩]]

theorem one_record_per_message_iff_nested :
    sampleDisplay.Plain ∧ OneRecordPerMessage sampleDisplay samplePeer nestedPacket := by
  refine ⟨sampleDisplay_plain, ?_⟩
  refine (one_record_per_message_iff sampleDisplay_plain samplePeer nestedPacket).mpr ?_
  have hbpm : PlainMessage ⟨"/audio/bpm/bpm", [.float (.fin 120)]⟩ :=
    ⟨by decide, by simp [PlainArg]⟩
  have hscene : PlainMessage ⟨"/scene", [.string "blue sky", .int (-1)]⟩ := by
    have hwords : Clean '\n' '\t' ("blue sky".toList.take 32) := by decide
    exact ⟨by decide, by simpa [PlainArg] using hwords⟩
  change ∀ msg ∈ [_, _], PlainMessage msg
  simp [hbpm, hscene]

/-- One message whose text goes on with a record of its own. -/
def forgedPacket : OscPacket := .message ⟨"/x", [.string "a\nraw\t10.20.30.40:9000\t/y\ti:1"]⟩

/-- What two messages would have printed. -/
def honestPacket : OscPacket :=
  .bundle ⟨0, 1⟩ [.message ⟨"/x", [.string "a"]⟩, .message ⟨"/y", [.int 1]⟩]

theorem forgedPacket_prints_two_records :
    sampleDisplay.Plain ∧ (messages forgedPacket).length = 1 ∧
      (lines '\n' (walkForRaw sampleDisplay samplePeer forgedPacket).toList).length = 2 ∧
      walkForRaw sampleDisplay samplePeer forgedPacket =
        walkForRaw sampleDisplay samplePeer honestPacket ∧
      ¬OneRecordPerMessage sampleDisplay samplePeer forgedPacket := by
  have hlines : (lines '\n' (walkForRaw sampleDisplay samplePeer forgedPacket).toList).length =
      2 := by decide +kernel
  refine ⟨sampleDisplay_plain, rfl, hlines, by decide +kernel, fun h => ?_⟩
  exact absurd (hlines.symm.trans h.count) (by decide)

end MonitorDump
