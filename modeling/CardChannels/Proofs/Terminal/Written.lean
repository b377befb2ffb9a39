import CardChannels.Proofs.Command.OpenTable
import CardChannels.Proofs.Table.Aptness
import CardChannels.Proofs.Terminal.Icons
import CardChannels.Proofs.Terminal.Timers
import CardChannels.Proofs.Tlv.Grammar

/-!
# Every message can be written

An object whose length does not fit cannot be written, and the terminal repeats the card's bearer
descriptions to it. These have been read from objects, so they fit, and everything else that a
message holds is short. The main statement says that no message of any run is too long, and that an
answer to a receive takes at most 255 bytes.
-/
namespace CardChannels

/-! What is read into a command -/

/-- A command that asks for what its details say, with settings whose bearer can be written. -/
structure Command.Apt (command : Command) : Prop where
  kind : command.details.kind? = some command.instruction.kind
  bearer : ∀ settings, command.instruction = .openChannel settings → settings.Fits

namespace Tlv

/-- The value of an object that was read fits in an object. -/
theorem length_value_le {data : Bytes} {index : Nat} {t : Tlv}
    (h : t ∈ (decodeFrom data index).1) : t.value.length ≤ maxLength := by
  obtain ⟨images, rest, split, -⟩ := split_readAll index (data.drop index)
  obtain ⟨image, himage⟩ := split.image_of_mem h
  cases himage with
  | mk tagged measured => exact (lengthImage_iff.mp measured).1

end Tlv

/-- The bearer of settings is the value of an object, and so can be written. -/
theorem OpenChannel.fits_of_settings {objects : List Tlv} {settings : ChannelSettings}
    (short : ∀ t ∈ objects, t.value.length ≤ Tlv.maxLength)
    (h : OpenChannel.settings objects = .ok settings) : settings.Fits := by
  intro b hb
  have same := (give_of_settings h).bearer
  rw [hb, Option.map_some] at same
  obtain ⟨t, found, value⟩ := Option.map_eq_some_iff.mp same.symm
  have listed : t ∈ objects := List.mem_of_find?_eq_some found
  change b.toTlv.value.length ≤ _
  rw [← value]
  exact short t listed

namespace Command

variable {objects : List Tlv} {details : CommandDetails} {command : Command}
  {raw : Bytes}

/-- A command that was read from short objects is apt. -/
theorem apt_of_ofObjects (short : ∀ t ∈ objects, t.value.length ≤ Tlv.maxLength)
    (h : ofObjects details objects = .ok command) : command.Apt := by
  obtain ⟨kind, _, _, instruction, hkind, hinstruction, -, -, rfl⟩ := ofObjects_eq_ok.mp h
  obtain ⟨same, read⟩ := of_instructionOf hinstruction
  refine ⟨?_, fun settings opens => OpenChannel.fits_of_settings short (read settings opens)⟩
  rw [hkind, same]

theorem apt_of_ofBytes (h : ofBytes raw = .ok command) : command.Apt := by
  unfold ofBytes at h
  split at h
  · cases h
  · rename_i body _
    dsimp only at h
    split at h
    · cases h
    · cases h
    · rename_i details _
      split at h
      · cases h
      · split at h
        · rename_i command' read
          cases h
          exact apt_of_ofObjects (fun t ht => Tlv.length_value_le ht) read
        · cases h

theorem Apt.withIcons (h : command.Apt) (images : Option (List IconImage)) :
    (command.withIcons images).Apt := by
  cases images with
  | some images => exact ⟨h.kind, h.bearer⟩
  | none => exact ⟨h.kind, h.bearer⟩

/-- What an apt command has the table deal with is apt. -/
theorem Apt.tableInput? (h : command.Apt) {host : Host} {i : TableInput}
    (hi : command.tableInput? host = some i) : i.Apt := by
  have kind := h.kind
  unfold Command.tableInput? at hi
  cases hinstruction : command.instruction with
  | setUpEventList codes =>
    rw [hinstruction] at hi
    cases hi
  | openChannel settings =>
    rw [hinstruction] at hi kind
    cases hi
    exact ⟨kind, h.bearer settings hinstruction⟩
  | closeChannel channel =>
    rw [hinstruction] at hi
    cases hi
    trivial
  | receiveData | sendData | getChannelStatus =>
    rw [hinstruction] at hi kind
    cases hi
    exact kind

end Command

/-! Writing -/

/-- What an apt answer carries fits in objects. -/
theorem Payload.Fits.objects {data : Payload} (h : data.Fits) :
    ∀ o ∈ data.objects, o.length ≤ Tlv.maxLength := by
  have word (w : UInt16) : (ChannelStatus.tlvOfWord w).length ≤ Tlv.maxLength := by
    simp [ChannelStatus.tlvOfWord, Tlv.known, Tlv.length, Bytes.ofWord, Tlv.maxLength]
  have count (n : Nat) : (countTlv n).length ≤ Tlv.maxLength := by
    simp [countTlv, Tlv.known, Tlv.length, Tlv.maxLength]
  cases data with
  | openChannel status bearer size =>
    intro o ho
    simp only [Payload.objects, List.mem_append, Option.mem_toList, Option.map_eq_some_iff,
      List.mem_singleton] at ho
    rcases ho with (⟨s, -, rfl⟩ | ⟨b, hb, rfl⟩) | rfl
    · exact word s.word
    · exact h b hb
    · simp [BufferSize.toTlv, Tlv.known, Tlv.length, Bytes.ofWord, Tlv.maxLength]
  | sendData free => exact List.forall_mem_singleton.mpr (count free)
  | receiveData data remaining =>
    have short : (Tlv.known .channelData data).length ≤ Tlv.maxLength :=
      Nat.le_trans h (by decide)
    exact List.forall_mem_cons.mpr ⟨short, List.forall_mem_singleton.mpr (count remaining)⟩
  | channelStatus words =>
    intro o ho
    obtain ⟨w, -, rfl⟩ := List.mem_map.mp ho
    exact word w

namespace TerminalResponse

variable {r : TerminalResponse} {bytes : Bytes}

/-- An apt answer can be written. -/
theorem Apt.written (h : r.Apt) : ∃ bytes, r.encode = .ok bytes := by
  refine ⟨_, Tlv.encodeAll_eq_ok ?_⟩
  have details : r.details.toTlv.length ≤ Tlv.maxLength := by
    simp [CommandDetails.toTlv, Tlv.length, Tlv.maxLength]
  have devices : DeviceIdentities.terminalToCard.toTlv.length ≤ Tlv.maxLength := by decide
  have result : (Tlv.known .result (r.result.code :: r.info.toList)).length ≤ Tlv.maxLength := by
    cases r.info <;> simp [Tlv.known, Tlv.length, Tlv.maxLength]
  refine List.forall_mem_cons.mpr ⟨details, List.forall_mem_cons.mpr ⟨devices,
    List.forall_mem_cons.mpr ⟨result, ?_⟩⟩⟩
  rcases hdata : r.data with _ | data
  · simp
  · exact (h data hdata).2.objects

/-- The data of an apt answer to a receive, if it has any. -/
theorem Apt.received (h : r.Apt) (kind : r.details.kind? = some .receiveData) :
    r.data = none ∨ ∃ bytes remaining, r.data = some (.receiveData bytes remaining) ∧
      bytes.length ≤ maxReceive := by
  rcases hdata : r.data with _ | data
  · exact .inl rfl
  · obtain ⟨same, fits⟩ := h data hdata
    rw [kind] at same
    cases data with
    | receiveData bytes remaining => exact .inr ⟨bytes, remaining, rfl, fits⟩
    | openChannel | sendData | channelStatus => cases same

/-- An answer takes at most 13 bytes beside what it carries. -/
theorem totalSize_objects_le (r : TerminalResponse) :
    Tlv.totalSize r.objects ≤ 13 + Tlv.totalSize (r.data.elim [] Payload.objects) := by
  have info : r.info.toList.length ≤ 1 := by cases r.info <;> simp
  have measured : Tlv.lengthFieldSize (r.info.toList.length + 1) = 1 := if_pos (by omega)
  have carried : r.objects = r.details.toTlv :: DeviceIdentities.terminalToCard.toTlv ::
      .known .result (r.result.code :: r.info.toList) :: r.data.elim [] Payload.objects := by
    unfold objects
    cases r.data <;> rfl
  have details : r.details.toTlv.size = 5 := rfl
  have devices : DeviceIdentities.terminalToCard.toTlv.size = 4 := rfl
  have result : (Tlv.known .result (r.result.code :: r.info.toList)).size ≤ 4 := by
    change 1 + Tlv.lengthFieldSize (r.info.toList.length + 1) + (r.info.toList.length + 1) ≤ 4
    omega
  rw [carried]
  change r.details.toTlv.size + (DeviceIdentities.terminalToCard.toTlv.size +
    ((Tlv.known .result (r.result.code :: r.info.toList)).size + _)) ≤ _
  omega

/-- An apt answer to a receive is short. -/
theorem Apt.length_le (h : r.Apt) (kind : r.details.kind? = some .receiveData)
    (written : r.encode = .ok bytes) : bytes.length ≤ 255 := by
  obtain ⟨-, rfl⟩ := Tlv.of_encodeAll written
  rw [Tlv.length_allBytes fun o _ => o.length_contents]
  refine Nat.le_trans r.totalSize_objects_le ?_
  rcases h.received kind with hdata | ⟨data, remaining, hdata, short⟩
  · rw [hdata]
    decide
  · -- the field for the length of the greatest data that is handed over has two bytes
    have short : data.length ≤ 0xEC := short
    have measured : Tlv.lengthFieldSize data.length ≤ 2 := by
      unfold Tlv.lengthFieldSize
      split
      · omega
      · exact Nat.le_of_eq (if_pos (by omega))
    have carried : Tlv.totalSize (Payload.receiveData data remaining).objects =
        1 + Tlv.lengthFieldSize data.length + data.length + 3 := rfl
    rw [hdata, Option.elim_some, carried]
    omega

end TerminalResponse

/-! Runs -/

namespace Terminal

variable {t : Terminal} {input : Input}

/-- A terminal whose table and whose waiting command are apt. -/
structure Apt (t : Terminal) : Prop where
  table : t.table.Apt
  pending : ∀ command, t.reader.pending = some command → command.Apt

/-- The result of a step that leaves the terminal apt and answers aptly. -/
structure AptStep (result : Terminal × Reaction) : Prop where
  terminal : result.1.Apt
  answers : ∀ r, .response r ∈ result.2.messages → r.Apt

theorem mem_messages {effects : List Effect} {r : TerminalResponse}
    (h : .response r ∈ t.messages effects) : .respond r ∈ effects := by
  obtain ⟨effect, heffect, hmessage⟩ := List.mem_filterMap.mp h
  cases effect with
  | respond r' =>
    cases hmessage
    exact heffect
  | raise e =>
    dsimp only at hmessage
    split at hmessage <;> cases hmessage
  | retry => cases hmessage

theorem Apt.settle (h : t.Apt) (keyed : t.table.Keyed) {i : TableInput} (asked : i.Apt) :
    AptStep (t.settle (t.table.step i)) := by
  obtain ⟨table, effects⟩ := ChannelTable.apt_step h.table keyed asked
  exact ⟨⟨table, h.pending⟩, fun r hr => effects _ (mem_messages hr)⟩

/-- An answer alone that carries nothing. -/
theorem Apt.respond (h : t.Apt) {r : TerminalResponse} (data : r.data = none) :
    AptStep (t, .respond r) := by
  refine ⟨h, fun r' hr => ?_⟩
  obtain rfl : r' = r := by simpa [Reaction.respond] using hr
  exact TerminalResponse.apt_of_data_none data

theorem Apt.silent (h : t.Apt) {reaction : Reaction} (none : reaction.messages = []) :
    AptStep (t, reaction) := by
  refine ⟨h, fun r hr => ?_⟩
  rw [none] at hr
  cases hr

theorem Apt.execute (h : t.Apt) (keyed : t.table.Keyed) (host : Host) {command : Command}
    (asked : command.Apt) : AptStep (t.execute host command) := by
  have table {i : TableInput} (hi : command.tableInput? host = some i) :
      AptStep (t.settle (t.table.step i)) := h.settle keyed (asked.tableInput? hi)
  unfold Terminal.execute
  unfold Command.tableInput? at table
  cases hinstruction : command.instruction with
  | setUpEventList codes =>
    have listed : Apt { t with armed := ChannelEvent.listed codes } := ⟨h.table, h.pending⟩
    exact listed.respond rfl
  | openChannel | closeChannel | receiveData | sendData | getChannelStatus =>
    rw [hinstruction] at table
    exact table rfl

theorem Apt.idle (h : t.Apt) : Apt { t with reader := .idle } := by
  refine ⟨h.table, ?_⟩
  rintro _ ⟨⟩

/-- Every input leaves the terminal apt, and it answers aptly. -/
theorem Apt.step (h : t.Apt) (keyed : t.table.Keyed) (host : Host) (input : Input) :
    AptStep (t.step host input) := by
  cases input with
  | command raw =>
    rcases t.step_command_cases host raw with
      ⟨_, -, hstep⟩ | ⟨_, hread, -, hstep⟩ | ⟨command, _, hread, -, hstep⟩
    · rw [hstep]
      exact h.idle.respond rfl
    · rw [hstep]
      exact h.idle.execute keyed host (Command.apt_of_ofBytes hread)
    · rw [hstep]
      have waiting : Apt { t with reader := ⟨some command⟩, iconRequest := t.iconRequest + 1 } := by
        refine ⟨h.table, ?_⟩
        rintro _ ⟨⟩
        exact Command.apt_of_ofBytes hread
      exact waiting.silent rfl
  | iconsLoaded request images =>
    rcases t.step_iconsLoaded_cases host request images with
      ⟨waiting, waits, hstep⟩ | ⟨-, hstep⟩
    · rw [hstep]
      exact h.idle.execute keyed host ((h.pending _ waits.pending).withIcons images)
    · rw [hstep]
      exact h.silent rfl
  | sessionEnd => exact h.idle.settle keyed (i := .sessionEnd) trivial
  | cardRemoved =>
    have removed : Apt { t with reader := .idle, armed := [] } := ⟨h.table, h.idle.pending⟩
    exact removed.settle keyed (i := .cardRemoved) trivial
  | connection change => exact h.settle keyed (i := .connectionChanged change) trivial
  | retryDue k g => exact h.settle keyed (i := .bearerRetry host k g) trivial
  | report k g r => exact h.settle keyed (i := .report k g r) trivial
  | taskEnded k g =>
    have ended : Apt { t with table := t.table.taskEnded k g } :=
      ⟨(h.settle keyed (i := .taskEnded k g) trivial).terminal.table, h.pending⟩
    exact ended.silent rfl

end Terminal

variable {config : Config} {past : TerminalHistory} {t : Terminal}

theorem TerminalRun.apt (run : TerminalRun config past t) : t.Apt := by
  induction run with
  | start =>
    constructor
    · intro k s hs
      cases hs
    · rintro _ ⟨⟩
  | step run host input ih => exact (ih.step run.ledger.1 host input).terminal

/-- In every run each message for the card can be written, and an answer to a receive takes at most
255 bytes. -/
theorem every_message_written (run : TerminalRun config past t) (host : Host) (input : Input) :
    ∀ m ∈ (t.step host input).2.messages, ∃ bytes, m.encode = .ok bytes ∧
      ∀ r, m = .response r → r.details.kind? = some .receiveData → bytes.length ≤ 255 := by
  intro m hm
  cases m with
  | response r =>
    have apt := (run.apt.step run.ledger.1 host input).answers r hm
    obtain ⟨bytes, written⟩ := apt.written
    refine ⟨bytes, written, ?_⟩
    rintro _ ⟨⟩ kind
    exact apt.length_le kind written
  | event e =>
    obtain ⟨bytes, written⟩ := e.encode_eq_ok
    exact ⟨bytes, written, by simp⟩

/-- A command for 255 bytes of the first channel. -/
def receiveCommand : Bytes :=
  [0x81, 0x03, 0x03, 0x42, 0x00, 0x82, 0x02, 0x81, 0x21, 0xB7, 0x01, 0xFF]

/-- What that command is answered with when 250 bytes have come. -/
def receiveAnswer : TerminalResponse :=
  ⟨⟨3, 0x42, 0x00, true⟩, .modified, none,
    some (.receiveData (List.replicate 0xEC 0xAB) 14)⟩

/-- Of 250 bytes that have come, 236 are handed over, in an answer of 254 bytes. -/
theorem full_receive_written :
    ∃ past t, TerminalRun .standard past t ∧
      past.map (·.1) = [.report 1 1 (.data (List.replicate 250 0xAB)), .report 1 1 .ready,
        .command openCommand] ∧
      (t.step SteadyHost.connected.answers (.command receiveCommand)).2.messages =
        [.response receiveAnswer] ∧
      ∃ bytes, receiveAnswer.encode = .ok bytes ∧ bytes.length ≤ 255 ∧ bytes.length = 254 := by
  let host := SteadyHost.connected.answers
  have run := (TerminalRun.start : TerminalRun .standard _ _)
    |>.step host (.command openCommand)
    |>.step host (.report 1 1 .ready)
    |>.step host (.report 1 1 (.data (List.replicate 250 0xAB)))
  have written := every_message_written run host (.command receiveCommand)
  refine ⟨_, _, run, rfl, by decide +kernel, ?_⟩
  obtain ⟨bytes, encoded, short⟩ := written (.response receiveAnswer) (by decide +kernel)
  refine ⟨bytes, encoded, short _ rfl (by decide), ?_⟩
  obtain ⟨-, rfl⟩ := Tlv.of_encodeAll encoded
  decide +kernel

end CardChannels
