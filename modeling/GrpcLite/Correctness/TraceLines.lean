import GrpcLite.Core.Json
import GrpcLite.Trace.Records

/-!
# The trace file is read back

Every record is a line of JSON with the fields that the trace function prints, and
the file reads back as its records. One directive prints a string as it is: a record
of a finished call holds the method between quotes without escapes. So a file reads
back exactly when the methods in it need none. The reader takes strings as bytes and
does not ask for UTF-8.
-/

namespace GrpcLite

/-! ## What a record says -/

/-- The digits that a byte string is written in. -/
def Trace.hexDigits (bytes : Bytes) : Bytes :=
  bytes.flatMap fun b => [hexChar (b.toNat / 16), hexChar (b.toNat % 16)]

/-- An entry of a settings list. -/
def Trace.settingJson (entry : Nat × Nat) : Json :=
  .obj [(ascii "id".toList, .num entry.1), (ascii "name".toList, .str (h2SettingName entry.1)),
    (ascii "value".toList, .num entry.2)]

/-- What a value says. -/
def TraceValue.json : TraceValue → Json
  | .unsigned n => .num n
  | .signed i => .num i
  | .keyword none => .null
  | .keyword (some b) => .bool b
  | .word w => .str w.text
  | .verbatim s => .str s
  | .string s => .str s
  | .hex bytes => .str (Trace.hexDigits bytes)
  | .settings entries => .arr (entries.map Trace.settingJson)

/-- A field as a member of an object. -/
def TraceLine.member (field : TraceKey × TraceValue) : Bytes × Json := (field.1.text, field.2.json)

/-- What a record says. -/
def TraceLine.json (line : TraceLine) : Json := .obj (line.map TraceLine.member)

/-- A string that `%.*s` prints whole and that needs no escapes. -/
structure Trace.Plain (s : Bytes) : Prop where
  /-- No zero byte ends the text, and the cast leaves its length. -/
  whole : printfString s = s
  /-- No byte needs an escape. -/
  plain : ∀ b ∈ s, Json.plain b = true

/-- A value that is printed as what it says. -/
def TraceValue.Plain : TraceValue → Prop
  | .verbatim s => Trace.Plain s
  | _ => True

/-! ## Values -/

namespace Trace

/-- The trace functions escape a byte as the JSON writer does. -/
theorem jsonByte_eq (b : UInt8) : jsonByte b = Json.escape b := by
  have hall : ∀ b : UInt8, jsonByte b = Json.escape b := Json.forall_byte (by decide +kernel)
  exact hall b

/-- They write strings as it does. -/
theorem jsonString_eq (s : Bytes) : jsonString s = Json.string s := by
  rw [jsonString, Json.string, funext jsonByte_eq]

/-- They print integers as it does. -/
theorem signedDecimal_eq (i : Int) : signedDecimal i = Json.integer i := by
  cases i <;> rfl

/-- Plain bytes are not escaped. -/
theorem flatMap_escape {s : Bytes} (h : ∀ b ∈ s, Json.plain b = true) :
    s.flatMap Json.escape = s := by
  induction s with
  | nil => rfl
  | cons b s ih =>
    rw [List.flatMap_cons, ih fun c hc => h c (List.mem_cons_of_mem _ hc), Json.escape,
      if_pos (h b List.mem_cons_self), List.singleton_append]

/-- A plain string is written between quotes as it is. -/
theorem string_of_plain {s : Bytes} (h : ∀ b ∈ s, Json.plain b = true) :
    Json.string s = 34 :: (s ++ [34]) := by
  rw [Json.string, flatMap_escape h]

/-- The digits of bytes are plain. -/
theorem hexDigits_plain (bytes : Bytes) : ∀ b ∈ hexDigits bytes, Json.plain b = true := by
  have hall : ∀ n < 16, Json.plain (hexChar n) = true := by decide
  intro b hb
  obtain ⟨c, -, hb⟩ := List.mem_flatMap.mp hb
  have hc := c.toNat_lt
  rcases List.mem_cons.mp hb with rfl | hb
  · exact hall _ (by omega)
  · rw [List.mem_singleton.mp hb]
    exact hall _ (Nat.mod_lt _ (by decide))

/-- The digits of bytes are written as a string. -/
theorem hex_eq (bytes : Bytes) : hex bytes = Json.string (hexDigits bytes) :=
  (string_of_plain (hexDigits_plain bytes)).symm

/-- A setting is written as an object. -/
theorem settingText_eq (entry : Nat × Nat) : settingText entry = (settingJson entry).render := by
  have hid : ascii "\x7b\"id\":".toList = 123 :: (Json.string (ascii "id".toList) ++ [58]) := by decide
  have hname : ascii ",\"name\":".toList = 44 :: (Json.string (ascii "name".toList) ++ [58]) := by
    decide
  have hvalue : ascii ",\"value\":".toList = 44 :: (Json.string (ascii "value".toList) ++ [58]) := by
    decide
  rw [settingText, jsonString_eq, settingJson, Json.render, Json.renderMembers_eq, hid, hname, hvalue]
  simp only [List.map_cons, List.map_nil, Json.commas_cons, Json.commas, Json.renderMember,
    Json.render, List.append_assoc, List.cons_append, List.nil_append]
  rfl

/-- Settings behind the first one are set off by a comma. -/
theorem settingsText_cons (entry entry' : Nat × Nat) (entries : List (Nat × Nat)) :
    settingsText (entry :: entry' :: entries) =
      settingText entry ++ 44 :: settingsText (entry' :: entries) := rfl

/-- Settings are written as the items of an array. -/
theorem settingsText_eq (entries : List (Nat × Nat)) :
    settingsText entries = Json.commas ((entries.map settingJson).map Json.render) := by
  induction entries with
  | nil => rfl
  | cons entry entries ih =>
    cases entries with
    | nil => exact settingText_eq entry
    | cons entry' entries =>
      rw [settingsText_cons, ih, settingText_eq]
      rfl

/-- What `%.*s` prints is a prefix of the string. -/
theorem printfString_prefix (s : Bytes) : printfString s <+: s := by
  unfold printfString Surface.cString
  split
  · exact (List.takeWhile_prefix _).trans (List.take_prefix _ _)
  · exact List.takeWhile_prefix _

/-- Without escapes a string has its own length only when it is plain. -/
theorem plain_of_length {s : Bytes} (h : (s.flatMap Json.escape).length ≤ s.length) :
    ∀ b ∈ s, Json.plain b = true := by
  induction s with
  | nil => exact fun b hb => absurd hb List.not_mem_nil
  | cons b s ih =>
    have hrest := Json.length_le_flatMap_escape s
    rw [List.flatMap_cons, List.length_append, List.length_cons] at h
    cases hb : Json.plain b with
    | false =>
      have hlong := Json.two_le_length_escape hb
      omega
    | true =>
      rw [Json.escape, if_pos hb, List.length_singleton] at h
      exact List.forall_mem_cons.mpr ⟨hb, ih (by omega)⟩

end Trace

/-- The names of fields are plain. -/
theorem TraceKey.plain (key : TraceKey) : ∀ b ∈ key.text, Json.plain b = true := by
  refine List.all_eq_true.mp ?_
  cases key <;> decide

/-- The words of the trace are plain. -/
theorem TraceWord.plain (w : TraceWord) : ∀ b ∈ w.text, Json.plain b = true := by
  refine List.all_eq_true.mp ?_
  cases w <;> decide

namespace TraceValue

/-- A plain value is printed as what it says. -/
theorem Plain.text_eq {v : TraceValue} (h : v.Plain) : v.text = v.json.render := by
  cases v with
  | unsigned n => rfl
  | signed i => exact Trace.signedDecimal_eq i
  | keyword b => rcases b with _ | _ | _ <;> rfl
  | word w => exact (Trace.string_of_plain w.plain).symm
  | verbatim s =>
    rw [text, h.whole]
    exact (Trace.string_of_plain h.plain).symm
  | string s => exact Trace.jsonString_eq s
  | hex bytes => exact Trace.hex_eq bytes
  | settings entries =>
    rw [text, Trace.settingsText_eq, json, Json.render, Json.renderItems_eq]

/-- A value is printed no longer than what it says, and shorter unless it is plain. -/
theorem text_length (v : TraceValue) :
    v.text.length ≤ v.json.render.length ∧
      (v.json.render.length ≤ v.text.length → v.Plain) := by
  by_cases hplain : v.Plain
  · exact ⟨Nat.le_of_eq (congrArg List.length hplain.text_eq), fun _ => hplain⟩
  · cases v with
    | verbatim s =>
      have hprefix := Trace.printfString_prefix s
      have hescape := Json.length_le_flatMap_escape s
      have hlength := hprefix.length_le
      simp only [text, json, Json.render, Json.length_string, List.length_cons,
        List.length_append, List.length_nil]
      refine ⟨by omega, fun h => ⟨?_, Trace.plain_of_length (by omega)⟩⟩
      exact hprefix.eq_of_length (by omega)
    | _ => exact absurd trivial hplain

end TraceValue

/-! ## Records -/

namespace TraceLine

/-- A field with a plain value is written as a member. -/
theorem fieldText_eq {field : TraceKey × TraceValue} (h : field.2.Plain) :
    fieldText field = Json.renderMember (member field) := by
  rw [fieldText, h.text_eq, Json.renderMember, member, Trace.string_of_plain field.1.plain]
  simp only [List.cons_append, List.append_assoc, List.nil_append]

/-- A field is printed no longer than a member, and shorter unless its value is plain. -/
theorem fieldText_length (field : TraceKey × TraceValue) :
    (fieldText field).length ≤ (Json.renderMember (member field)).length ∧
      ((Json.renderMember (member field)).length ≤ (fieldText field).length → field.2.Plain) := by
  obtain ⟨hle, hplain⟩ := field.2.text_length
  rw [fieldText, Json.renderMember, member, Trace.string_of_plain field.1.plain]
  simp only [List.length_cons, List.length_append, List.length_nil]
  exact ⟨by omega, fun h => hplain (by omega)⟩

/-- Fields behind the first one are set off by a comma. -/
theorem fieldsText_cons (field field' : TraceKey × TraceValue) (line : TraceLine) :
    fieldsText (field :: field' :: line) = fieldText field ++ 44 :: fieldsText (field' :: line) := rfl

/-- Fields with plain values are written as members. -/
theorem fieldsText_eq {line : TraceLine} (h : ∀ field ∈ line, field.2.Plain) :
    line.fieldsText = Json.commas ((line.map member).map Json.renderMember) := by
  induction line with
  | nil => rfl
  | cons field line ih =>
    have hrest := ih fun f hf => h f (List.mem_cons_of_mem _ hf)
    cases line with
    | nil => exact fieldText_eq (h field List.mem_cons_self)
    | cons field' line =>
      rw [fieldsText_cons, hrest, fieldText_eq (h field List.mem_cons_self)]
      rfl

/-- Fields are printed no longer than members, and shorter unless all values are plain. -/
theorem fieldsText_length (line : TraceLine) :
    line.fieldsText.length ≤ (Json.commas ((line.map member).map Json.renderMember)).length ∧
      ((Json.commas ((line.map member).map Json.renderMember)).length ≤ line.fieldsText.length →
        ∀ field ∈ line, field.2.Plain) := by
  induction line with
  | nil => exact ⟨Nat.le_refl _, fun _ field hf => absurd hf List.not_mem_nil⟩
  | cons field line ih =>
    obtain ⟨hle, hplain⟩ := fieldText_length field
    cases line with
    | nil =>
      refine ⟨hle, fun h f hf => ?_⟩
      rw [List.mem_singleton.mp hf]
      exact hplain h
    | cons field' line =>
      obtain ⟨hle', hplain'⟩ := ih
      simp only [fieldsText_cons, List.map_cons, Json.commas_cons, List.length_append,
        List.length_cons] at hle' hplain' ⊢
      exact ⟨by omega, fun h => List.forall_mem_cons.mpr ⟨hplain (by omega), hplain' (by omega)⟩⟩

/-- What a record says is an object with its fields. -/
theorem render_json (line : TraceLine) : line.json.render =
    123 :: (Json.commas ((line.map member).map Json.renderMember) ++ [125]) := by
  rw [json, Json.render, Json.renderMembers_eq]

/-- A record of plain values is the text of what it says. -/
theorem text_eq {line : TraceLine} (h : ∀ field ∈ line, field.2.Plain) :
    line.text = line.json.render := by
  rw [text, render_json, fieldsText_eq h]

/-- A record is printed no longer than its object, and shorter unless all its values are plain. -/
theorem text_length (line : TraceLine) : line.text.length ≤ line.json.render.length ∧
    (line.json.render.length ≤ line.text.length → ∀ field ∈ line, field.2.Plain) := by
  obtain ⟨hle, hplain⟩ := line.fieldsText_length
  rw [text, render_json]
  simp only [List.length_cons, List.length_append, List.length_nil]
  exact ⟨by omega, fun h => hplain (by omega)⟩

end TraceLine

/-- The file reads back as its records exactly when each of their values is plain. -/
theorem TraceLog.readLines_file (log : TraceLog) :
    Json.readLines log.file = some (log.lines.map TraceLine.json) ↔
      ∀ line ∈ log.lines, ∀ field ∈ line, field.2.Plain := by
  have hexact (line : TraceLine) (h : line.text.length = line.json.render.length) :
      line.text = line.json.render := TraceLine.text_eq (line.text_length.2 (Nat.le_of_eq h.symm))
  refine (Json.readLines_iff (fun line _ => line.text_length.1) fun line _ => hexact line).trans ?_
  refine forall₂_congr fun line _ => ⟨fun h => ?_, TraceLine.text_eq⟩
  exact line.text_length.2 (Nat.le_of_eq (congrArg List.length h).symm)

/-! ## What is printed as it is -/

/-- The records added to a log satisfy a property. -/
def TraceLog.Adds (P : TraceLine → Prop) (log log' : TraceLog) : Prop :=
  ∀ line ∈ log'.lines, line ∈ log.lines ∨ P line

namespace TraceLog.Adds

variable {P : TraceLine → Prop} {env : TraceEnv} {log log' log'' : TraceLog}

/-- Nothing is added. -/
theorem refl (log : TraceLog) : Adds P log log := fun _ h => .inl h

/-- What is added one after the other. -/
theorem trans (h : Adds P log log') (h' : Adds P log' log'') : Adds P log log'' := by
  intro line hline
  rcases h' line hline with hline | hline
  · exact h line hline
  · exact .inr hline

/-- The counters do not count. -/
theorem of_lines (h : log'.lines = log.lines) : Adds P log log' := by
  intro line hline
  exact .inl (h ▸ hline)

/-- One record is added. -/
theorem append {nowUs : Nat} {event : TraceValue} {fields : TraceLine}
    (h : P (env.line nowUs event fields)) : Adds P log (log.append env nowUs event fields) := by
  intro line hline
  rcases List.mem_append.mp hline with hline | hline
  · exact .inl hline
  · rw [List.mem_singleton.mp hline]
    exact .inr h

/-- One record is added with the time of its printing. -/
theorem record {event : TraceValue} {fields : TraceLine}
    (h : ∀ nowUs, P (env.line nowUs event fields)) : Adds P log (log.record env event fields) := by
  have htick : Adds P log log.tick := of_lines rfl
  exact htick.trans (append (h _))

/-- What is added once the file is open. -/
theorem withFile {write : TraceLog → TraceLog} (h : ∀ log, Adds P log (write log)) :
    Adds P log (log.withFile env write) := by
  have hopen : Adds P log (log.openAndLock env).2 := by
    refine of_lines ?_
    unfold openAndLock
    split <;> rfl
  unfold TraceLog.withFile
  split
  · exact hopen.trans (h _)
  · exact hopen

end TraceLog.Adds

/-- A value that is not printed as it is. -/
def TraceValue.escaped : TraceValue → Bool
  | .verbatim _ => false
  | _ => true

/-- Only the methods of calls are printed as they are, and they are method paths that `fprintf`
can print. -/
def TraceLine.Methodical (line : TraceLine) : Prop :=
  ∀ key s, (key, .verbatim s) ∈ line →
    key = .rpcMethod ∧ Surface.validateGrpcPath s = none ∧ s.length < 2 ^ 31

namespace TraceLine

/-- Every value of some fields is escaped. -/
def Escaped (fields : TraceLine) : Prop := ∀ field ∈ fields, field.2.escaped = true

/-- The fields of both parts are escaped. -/
theorem Escaped.append {fields fields' : TraceLine} (h : fields.Escaped) (h' : fields'.Escaped) :
    Escaped (fields ++ fields') := fun field hf =>
  (List.mem_append.mp hf).elim (h field) (h' field)

/-- A record with escaped fields holds no method. -/
theorem Escaped.methodical {fields : TraceLine} (h : fields.Escaped) (env : TraceEnv)
    {event : TraceValue} (hevent : event.escaped = true) (nowUs : Nat) :
    Methodical (env.line nowUs event fields) := by
  intro key s hs
  have hall : Escaped (env.line nowUs event fields) :=
    List.forall_mem_cons.mpr ⟨rfl, List.forall_mem_cons.mpr ⟨rfl,
      List.forall_mem_cons.mpr ⟨hevent, h⟩⟩⟩
  cases hall _ hs

/-- The method of a call on the wire is escaped. -/
theorem rpcMethod_escaped (call : Option TracedCall) : Escaped (Trace.rpcMethod call) := by
  unfold Trace.rpcMethod
  split
  · exact List.forall_mem_singleton.mpr rfl
  · exact fun field hf => absurd hf List.not_mem_nil

/-- No fields at all. -/
theorem nil_escaped : Escaped [] := fun _ hf => absurd hf List.not_mem_nil

/-- The fields of an outbound frame are escaped. -/
theorem outboundFields_escaped (env : TraceEnv) (connection : TracedConnection) (data : Bytes) :
    Escaped (Trace.outboundFields env connection data) := by
  have hpayload : Escaped (Trace.outboundPayload data) := by
    unfold Trace.outboundPayload Trace.settingsEntriesFromPayload
    split
    · split
      · exact nil_escaped
      · simp [Escaped, TraceValue.escaped]
    · split
      · simp [Escaped, TraceValue.escaped]
      · split
        · simp [Escaped, TraceValue.escaped]
        · exact nil_escaped
  have hwire : Escaped (Trace.outboundWireBytes env data) := by
    unfold Trace.outboundWireBytes
    split
    · simp [Escaped, TraceValue.escaped]
    · split
      · simp [Escaped, TraceValue.escaped]
      · exact nil_escaped
  refine Escaped.append (Escaped.append (Escaped.append ?_ ?_) hpayload) hwire
  · simp [Escaped, TraceValue.escaped]
  · split
    · exact rpcMethod_escaped _
    · exact nil_escaped

/-- The fields of an inbound frame are escaped. -/
theorem inboundFields_escaped (connection : TracedConnection) (frame : Trace.InboundFrame) :
    Escaped (Trace.inboundFields connection frame) := by
  have hpayload : Escaped (Trace.inboundPayload frame) := by
    unfold Trace.inboundPayload
    repeat' split
    all_goals simp [Escaped, TraceValue.escaped]
  refine Escaped.append (Escaped.append ?_ (rpcMethod_escaped _)) hpayload
  simp [Escaped, TraceValue.escaped]

/-- The fields of an operation on the socket or on TLS are escaped. -/
theorem transportIoFields_escaped (connection : TracedConnection) (requestedLen : Nat)
    (resultLen sslError savedErrno : Int) :
    Escaped (Trace.transportIoFields connection requestedLen resultLen sslError savedErrno) := by
  refine Escaped.append (Escaped.append (Escaped.append ?_ ?_) ?_) ?_
  · simp [Escaped, TraceValue.escaped]
  · split
    · simp [Escaped, TraceValue.escaped]
    · exact nil_escaped
  · split
    · simp [Escaped, TraceValue.escaped]
    · exact nil_escaped
  · split
    · simp [Escaped, TraceValue.escaped]
    · exact nil_escaped

/-- The fields of a request header are escaped. -/
theorem headerFields_escaped (env : TraceEnv) (streamId : Int) (path : Bytes) (index : Nat)
    (header : Header) : Escaped (Trace.headerFields env streamId path index header) := by
  have hvalue : (Trace.headerValue env header).2.escaped = true := by
    unfold Trace.headerValue
    split <;> rfl
  simpa [Escaped, TraceValue.escaped, Trace.headerFields] using hvalue

/-- The record of a finished call holds its method as it is. -/
theorem recordCall_methodical (env : TraceEnv) (call : EndedCall) (nowUs : Nat) :
    Methodical (env.line nowUs (.word .rpcEnd) (call.fields nowUs)) := by
  intro key s hs
  simp only [TraceEnv.line, EndedCall.fields, List.mem_cons, Prod.mk.injEq, reduceCtorEq,
    and_false, false_or, or_false, List.not_mem_nil, TraceValue.verbatim.injEq] at hs
  obtain ⟨rfl, rfl⟩ := hs
  exact ⟨rfl, call.valid, Nat.lt_of_le_of_lt (Nat.le_add_right _ _) call.short⟩

end TraceLine

namespace TraceLog

open TraceLine

variable {env : TraceEnv} {log : TraceLog}

/-- A record of escaped values is written, if the file opens. -/
theorem record_adds {event : TraceValue} {fields : TraceLine} (hevent : event.escaped = true)
    (h : fields.Escaped) :
    Adds Methodical log (log.withFile env fun log => log.record env event fields) :=
  .withFile fun _ => .record (h.methodical env hevent)

/-- An outbound frame adds its record. -/
theorem outboundFrameRecord_adds (connection : TracedConnection) (data : Bytes) :
    Adds Methodical log (log.outboundFrameRecord env connection data) := by
  unfold outboundFrameRecord
  split
  · exact .refl log
  split
  · exact .refl log
  · exact record_adds rfl (outboundFields_escaped _ _ _)

/-- The loop over the frames of a chunk adds a record each. -/
theorem outboundFrames_adds (connection : TracedConnection) (data : Bytes) (rounds offset : Nat) :
    Adds Methodical log (outboundFrames env connection data rounds offset log).1 := by
  induction rounds generalizing offset log with
  | zero => exact .refl log
  | succ rounds ih =>
    rw [outboundFrames]
    split
    · split
      · exact .refl log
      · exact (outboundFrameRecord_adds connection _).trans (ih _)
    · exact .refl log

/-- Bytes that are no frame add a record. -/
theorem chunkUnparsed_adds (data : Bytes) (offset : Nat) :
    Adds Methodical log (log.chunkUnparsed env data offset) := by
  unfold chunkUnparsed
  split
  · exact record_adds rfl (by simp [Escaped, TraceValue.escaped])
  · exact .refl log

/-- A chunk behind its preface adds its records. -/
theorem outboundRest_adds (connection : TracedConnection) (data : Bytes) (offset : Nat) :
    Adds Methodical log (log.outboundRest env connection data offset) := by
  have hloop : Adds Methodical log
      (outboundFrames env connection data data.length offset log).1 :=
    outboundFrames_adds connection data data.length offset
  exact hloop.trans (chunkUnparsed_adds data _)

/-- A chunk adds its records. -/
theorem outboundFrame_adds (connection : TracedConnection) (data : Bytes) :
    Adds Methodical log (log.outboundFrame env connection data) := by
  have hopen : Adds Methodical log (log.openAndLock env).2 := by
    refine .of_lines ?_
    unfold openAndLock
    split <;> rfl
  have hfields : Escaped [(.chunkLen, .unsigned 24)] := by simp [Escaped, TraceValue.escaped]
  unfold outboundFrame
  split
  · exact .refl log
  split
  · split
    · exact (hopen.trans (.record (hfields.methodical env rfl))).trans (outboundRest_adds _ _ _)
    · exact hopen
  · exact outboundRest_adds _ _ _

/-- Request headers add a record each. -/
theorem headerRecords_adds (streamId : Int) (path : Bytes) (index : Nat) (headers : List Header) :
    Adds Methodical log (headerRecords env streamId path index headers log) := by
  induction headers generalizing index log with
  | nil => exact .refl log
  | cons header headers ih =>
    exact (Adds.record ((headerFields_escaped env streamId path index header).methodical env
      rfl)).trans (ih _)

/-- Every trace function adds records in which only methods are printed as they are. -/
theorem apply_adds (call : TraceCall) : Adds Methodical log (log.apply env call) := by
  cases call with
  | connectionDestroy connection =>
    change Adds Methodical log (log.connectionDestroy env connection)
    unfold connectionDestroy
    split
    · exact .refl log
    · exact record_adds rfl (by simp [Escaped, TraceValue.escaped])
  | outboundFrame connection data => exact outboundFrame_adds connection data
  | outboundFrameRecord connection data => exact outboundFrameRecord_adds connection data
  | inboundFrame connection frame =>
    change Adds Methodical log (log.inboundFrame env connection frame)
    unfold inboundFrame
    split
    · exact .refl log
    · exact record_adds rfl (inboundFields_escaped _ _)
  | transportIo connection event requestedLen resultLen sslError savedErrno =>
    change Adds Methodical log
      (log.transportIo env connection event requestedLen resultLen sslError savedErrno)
    unfold transportIo
    split
    · exact .refl log
    · exact record_adds rfl (transportIoFields_escaped _ _ _ _ _)
  | requestHeaders call headers =>
    change Adds Methodical log (log.requestHeaders env call headers)
    unfold requestHeaders
    split
    · exact .refl log
    split
    · exact .refl log
    · exact .withFile fun _ => headerRecords_adds _ _ _ _
  | recordCall call =>
    change Adds Methodical log (log.recordCall env call)
    unfold recordCall
    split
    · exact .refl log
    · have htick : Adds Methodical log log.tick := .of_lines rfl
      exact htick.trans (.withFile fun _ => .append (recordCall_methodical env call _))

/-- A run adds records whose only unescaped values are methods. -/
theorem run_adds (calls : List TraceCall) : Adds Methodical log (log.run env calls) := by
  induction calls generalizing log with
  | nil => exact .refl log
  | cons call calls ih => exact (apply_adds call).trans ih

/-- Without the path of a file a trace function does nothing. -/
theorem apply_off (h : env.filePath = none) (call : TraceCall) : log.apply env call = log := by
  cases call with
  | connectionDestroy connection => exact if_pos h
  | outboundFrame connection data => exact if_pos h
  | outboundFrameRecord connection data => exact if_pos h
  | inboundFrame connection frame => exact if_pos h
  | transportIo connection event requestedLen resultLen sslError savedErrno => exact if_pos h
  | requestHeaders call headers =>
    change log.requestHeaders env call headers = log
    unfold requestHeaders
    split
    · rfl
    · exact if_pos h
  | recordCall call => exact if_pos h

/-- A process that starts without `GRPC_LITE_TRACE_FILE` in its environment, or with an empty one,
writes no record. -/
theorem run_cacheInit_off (env : TraceEnv) {path : Option Bytes} (h : path.getD [] = [])
    (wireBytes : Option Bytes) (calls : List TraceCall) :
    log.run (env.cacheShutdown.cacheInit path wireBytes) calls = log := by
  have hoff : (env.cacheShutdown.cacheInit path wireBytes).filePath = none := by
    refine if_neg fun hset => ?_
    rw [h] at hset
    exact Nat.lt_irrefl 0 hset.2
  induction calls with
  | nil => rfl
  | cons call calls ih => exact (congrArg (fun log => TraceLog.run _ log calls)
      (apply_off hoff call)).trans ih

end TraceLog

/-! ## The file of a run -/

namespace Trace

/-- A method path has no control bytes and no blanks. -/
theorem lt_of_valid {path : Bytes} (h : Surface.validateGrpcPath path = none) :
    ∀ b ∈ path, 32 < b.toNat := by
  intro b hb
  unfold Surface.validateGrpcPath at h
  split at h
  · cases h
  split at h
  · cases h
  · next hclean =>
    simp only [List.any_eq_true, not_exists, not_and, Bool.or_eq_true, not_or,
      decide_eq_true_eq] at hclean
    have hlt := (hclean b hb).1
    exact Nat.lt_of_not_le fun hle => hlt (UInt8.le_iff_toNat_le.mpr hle)

/-- A string without a zero byte that is not too long for an `int` is printed whole. -/
theorem printfString_eq {s : Bytes} (hzero : ∀ b ∈ s, b ≠ 0) (hshort : s.length < 2 ^ 31) :
    printfString s = s := by
  have hlength : s.length % 2 ^ 32 = s.length := Nat.mod_eq_of_lt (by omega)
  unfold printfString Surface.cString
  rw [hlength, if_pos hshort, List.take_length]
  exact List.takeWhile_eq_self_iff.mpr fun b hb => decide_eq_true (hzero b hb)

/-- What makes a method path plain. -/
theorem plain_iff_of_valid {path : Bytes} (h : Surface.validateGrpcPath path = none)
    (hshort : path.length < 2 ^ 31) : Plain path ↔ 34 ∉ path ∧ 92 ∉ path := by
  have hlt := lt_of_valid h
  have hzero : ∀ b ∈ path, b ≠ 0 := by
    rintro b hb rfl
    exact absurd (hlt 0 hb) (by decide)
  constructor
  · intro hplain
    refine ⟨fun hmem => ?_, fun hmem => ?_⟩
    · exact (Json.plain_iff.mp (hplain.plain _ hmem)).2.1 rfl
    · exact (Json.plain_iff.mp (hplain.plain _ hmem)).2.2 rfl
  · rintro ⟨hquote, hslash⟩
    refine ⟨printfString_eq hzero hshort,
      fun b hb => Json.plain_iff.mpr ⟨Nat.le_of_lt (hlt b hb), ?_, ?_⟩⟩
    · rintro rfl
      exact hquote hb
    · rintro rfl
      exact hslash hb

end Trace

/-- The file of any run of the trace functions reads back as the records that they wrote exactly
when none of the methods of finished calls has a quote or a backslash. Strings are read as bytes:
what a value says is not checked to be UTF-8. -/
theorem TraceLog.readLines_run (env : TraceEnv) (calls : List TraceCall) :
    Json.readLines (TraceLog.run env {} calls).file =
        some ((TraceLog.run env {} calls).lines.map TraceLine.json) ↔
      ∀ line ∈ (TraceLog.run env {} calls).lines, ∀ method,
        (.rpcMethod, .verbatim method) ∈ line → 34 ∉ method ∧ 92 ∉ method := by
  have hmethodical : ∀ line ∈ (TraceLog.run env {} calls).lines, line.Methodical := by
    intro line hline
    rcases run_adds calls line hline with hline | hline
    · cases hline
    · exact hline
  rw [readLines_file]
  refine forall₂_congr fun line hline => ⟨fun h method hmethod => ?_, fun h field hfield => ?_⟩
  · obtain ⟨-, hvalid, hshort⟩ := hmethodical line hline _ _ hmethod
    exact (Trace.plain_iff_of_valid hvalid hshort).mp (h _ hmethod)
  · obtain ⟨key, value⟩ := field
    cases value with
    | verbatim s =>
      obtain ⟨rfl, hvalid, hshort⟩ := hmethodical line hline _ _ hfield
      exact (Trace.plain_iff_of_valid hvalid hshort).mpr (h s hfield)
    | _ => exact trivial

/-- The constructor of a call accepts a method path with a quote in it. -/
example : Surface.validateGrpcPath (ascii "/a\"/b".toList) = none := by decide

end GrpcLite
