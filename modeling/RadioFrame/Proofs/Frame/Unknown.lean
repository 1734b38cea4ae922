import Mathlib.Data.List.Basic
import RadioFrame.Envelope
import RadioFrame.Proofs.Schema.Layers

/-!
Records of unknown tags.

A layer of the schema passes over the records whose tags it does not know. `Padded` relates a byte
string to the same with such records put between its own, at the layer it is of and at those within
it, and `Padded.merges` says that this changes nothing. Only groups can be nested too deep: as long
as none begins (`MeetsGroup`), a budget above the height of a layer is enough (`Layer.hasRoom`).

`Layer.unknown_inert` puts this together for frames and messages.
-/

namespace RadioFrame

open Wire (IsKey IsNumber IsRecord IsValue Merges Shallow mergeRecord maxDepth)

/-! ### Padding -/

/-- A byte string of records of a layer, and the same with records of unknown tags in between. What
is put into a message inside a layer has one less of the budget, and the length of that message is
adjusted. -/
inductive Padded : Layer → Nat → Bytes → Bytes → Prop
  /-- Nothing was there and nothing is put in. -/
  | nil (l : Layer) (budget : Nat) : Padded l budget [] []
  /-- A record of an unknown tag is put in. -/
  | insert {l : Layer} {key : Wire.Key} {budget depth : Nat} {u bytes padded : Bytes}
      (hu : IsRecord u key depth) (hunknown : key.tag ∉ l.tags) (hdepth : depth ≤ budget)
      (h : Padded l budget bytes padded) : Padded l budget bytes (u ++ padded)
  /-- A record that was there stays as it is. -/
  | keep {l : Layer} {key : Wire.Key} {budget depth : Nat} {r bytes padded : Bytes}
      (hr : IsRecord r key depth) (h : Padded l budget bytes padded) :
      Padded l budget (r ++ bytes) (r ++ padded)
  /-- Something is put into a message that stands inside. -/
  | inside {l inner : Layer} {tag budget : Nat} {k w w' content content' bytes padded : Bytes}
      (hinner : l.within? tag = some inner) (hk : IsKey k ⟨tag, .lengthDelimited⟩)
      (hw : IsNumber w content.length) (hw' : IsNumber w' content'.length)
      (hcontent : Padded inner budget content content') (h : Padded l (budget + 1) bytes padded) :
      Padded l (budget + 1) (k ++ (w ++ content) ++ bytes) (k ++ (w' ++ content') ++ padded)

/-- Padded records lead to the same value. -/
lemma Padded.merges {l : Layer} {budget : Nat} {bytes padded : Bytes}
    (h : Padded l budget bytes padded) :
    ∀ {s t : l.Value}, Merges l.name l.readers budget s bytes t →
      Merges l.name l.readers budget s padded t := by
  induction h with
  | nil l budget => exact id
  | @insert l key budget depth u bytes padded hu hunknown hdepth _ ih =>
      intro s t hmerge
      have hskip : Wire.Consumes (mergeRecord l.name l.readers budget) s u s :=
        ⟨List.length_pos_iff.mp hu.length_pos,
          hu.mergeRecord_unknown (l.readers_eq_none hunknown) hdepth⟩
      exact (ih hmerge).cons hskip
  | keep hr _ ih =>
      intro s t hmerge
      obtain ⟨v, hv, hrest⟩ := hmerge.of_append (Layer.takesValues _) hr
      exact (ih hrest).cons hv
  | @inside l inner tag budget k w w' content content' bytes padded hinner hk hw hw' _ _ ihc ih =>
      intro s t hmerge
      have hr : IsRecord (k ++ (w ++ content)) ⟨tag, .lengthDelimited⟩ 1 :=
        ⟨k, w ++ content, rfl, hk, .sized hw⟩
      obtain ⟨v, hv, hrest⟩ := hmerge.of_append (Layer.takesValues _) hr
      obtain ⟨field, hfield⟩ := Option.isSome_iff_exists.mp (l.isSome_readers_of_within? hinner)
      have hholds := l.reads hfield
      rw [hinner] at hholds
      exact (ih hrest).cons (hv.replace_content hfield hholds inner.isSteady hk hw hw' ihc)

/-! ### Groups -/

/-- Somewhere in the records of a layer a group begins. The records begin where more bytes are left
than a limit, which is where the message ends; the last of them may reach beyond. -/
inductive MeetsGroup : Layer → Nat → Bytes → Prop
  /-- A group begins here. -/
  | here {l : Layer} {limit tag : Nat} {k rest : Bytes} (hlimit : limit < (k ++ rest).length)
      (hk : IsKey k ⟨tag, .startGroup⟩) : MeetsGroup l limit (k ++ rest)
  /-- A group begins in a message that stands inside. -/
  | inside {l inner : Layer} {limit tag n : Nat} {k w rest : Bytes}
      (hlimit : limit < (k ++ (w ++ rest)).length) (hinner : l.within? tag = some inner)
      (hk : IsKey k ⟨tag, .lengthDelimited⟩) (hw : IsNumber w n) (hfits : n ≤ rest.length)
      (h : MeetsGroup inner (rest.length - n) rest) : MeetsGroup l limit (k ++ (w ++ rest))
  /-- A group begins behind a record. -/
  | later {l : Layer} {key : Wire.Key} {limit depth : Nat} {r rest : Bytes}
      (hlimit : limit < (r ++ rest).length) (hr : IsRecord r key depth)
      (h : MeetsGroup l limit rest) : MeetsGroup l limit (r ++ rest)

/-- The budget is enough for the records of a layer, as long as no group begins. -/
def Layer.HasRoom (l : Layer) (budget : Nat) : Prop :=
  ∀ ⦃limit bytes⦄, ¬MeetsGroup l limit bytes → ∀ fuel s,
    Shallow (Wire.readUntil limit (mergeRecord l.name l.readers budget) fuel s bytes)

section

variable {l : Layer} {budget limit : Nat}

/-- Reading one record needs one more of the budget than the layers within need. -/
lemma Layer.shallow_mergeRecord
    (hwithin : ∀ tag inner, l.within? tag = some inner → inner.HasRoom budget) {bytes : Bytes}
    (hlimit : limit < bytes.length) (hmeets : ¬MeetsGroup l limit bytes) (s : l.Value) :
    Shallow (mergeRecord l.name l.readers (budget + 1) s bytes) := by
  refine (Wire.shallow_readKey bytes).bind ?_
  rintro ⟨key, rest⟩ hkey
  obtain ⟨k, rfl, hk⟩ := Wire.readKey_eq_ok_iff.mp hkey
  obtain ⟨tag, wireType⟩ := key
  dsimp only
  cases hfield : l.readers tag with
  | none =>
      have hgroup : wireType ≠ .startGroup := by
        rintro rfl
        exact hmeets (.here hlimit hk)
      exact (Wire.shallow_skip hgroup budget rest).bind fun _ _ => Wire.shallow_ok _
  | some field =>
      refine Shallow.within ?_ _ _
      have hreads := l.reads hfield
      cases hinner : l.within? tag with
      | none =>
          rw [hinner] at hreads
          exact hreads.shallow wireType (budget + 1) s rest
      | some inner =>
          rw [hinner] at hreads
          obtain ⟨part, put, hread⟩ := hreads
          rw [hread]
          refine Shallow.bind ?_ fun _ _ => Wire.shallow_ok _
          refine (Wire.shallow_expect _ _).bind fun _ hexpect => ?_
          obtain rfl := Wire.expect_eq_ok_iff.mp hexpect
          refine Wire.shallow_readDelimited fun n content hn hfits => ?_
          obtain ⟨w, rfl, hw⟩ := Wire.readNumber_eq_ok_iff.mp hn
          exact hwithin tag inner hinner
            (fun h => hmeets (.inside hlimit hinner hk hw hfits h)) _ _

lemma Layer.hasRoom_of_within
    (hwithin : ∀ tag inner, l.within? tag = some inner → inner.HasRoom budget) :
    l.HasRoom (budget + 1) := by
  intro limit bytes hmeets fuel
  induction fuel generalizing bytes with
  | zero => exact fun s => Wire.shallow_ok _
  | succ fuel ih =>
      intro s
      rw [Wire.readUntil]
      split
      · exact Wire.shallow_ok _
      · next hlong =>
          have hlimit := Nat.lt_of_not_le hlong
          refine (shallow_mergeRecord hwithin hlimit hmeets s).bind ?_
          rintro ⟨t, rest⟩ hstep
          obtain ⟨r, key, depth, rfl, hr⟩ :=
            Wire.exists_isRecord_of_mergeRecord l.takesValues hstep
          exact ih (fun h => hmeets (.later hlimit hr h)) t

end

/-- A budget above the height of a layer is enough. -/
theorem Layer.hasRoom (l : Layer) : ∀ {budget}, l.height < budget → l.HasRoom budget
  | left + 1, h => hasRoom_of_within fun tag inner hinner =>
      have hlower := height_within? hinner
      inner.hasRoom (by omega)
termination_by l.height

/-! ### Frames and messages -/

/-- A fault of the wire is a fault of the frame: neither its type nor its fields make one. -/
lemma Message.decode_of_wire {bytes : Bytes} {fault : Wire.Fault}
    (h : decode bytes = .error (.decode (.wire fault))) : Frame.decode bytes = .error fault := by
  rw [decode, Envelope.decode] at h
  cases hdecode : Frame.decode bytes with
  | error e =>
      rw [hdecode] at h
      cases h
      rfl
  | ok f =>
      rw [hdecode] at h
      obtain _ | ⟨d, _ | ⟨k, raw⟩⟩ := f
      · cases h
      · cases h
      · change ((Body.check (Kind.shape k) raw).mapError _ >>= _) = _ at h
        cases hcheck : Body.check (Kind.shape k) raw with
        | error v =>
            rw [hcheck] at h
            cases h
        | ok body =>
            rw [hcheck] at h
            cases h

/-- Records of unknown tags change nothing: they are passed over at every layer, with whatever it
holds, if they are not nested deeper than the budget allows, and then they can stand between the
records of a frame. The nesting is refused of groups only. -/
theorem Layer.unknown_inert :
    (∀ (l : Layer) (s : l.Value) (u : Bytes) (key : Wire.Key) (depth : Nat),
      IsRecord u key depth → key.tag ∉ l.tags → ∀ (budget : Nat) (rest : Bytes),
        (depth ≤ budget →
          mergeRecord l.name l.readers budget s (u ++ rest) = .ok (s, rest)) ∧
        (budget < depth →
          mergeRecord l.name l.readers budget s (u ++ rest) = .error (.plain .tooDeep))) ∧
      (∀ (bytes padded : Bytes) (f : Frame), Padded .frame maxDepth bytes padded →
        Frame.decode bytes = .ok f → Frame.decode padded = .ok f ∧
          Envelope.decode padded = Envelope.decode bytes ∧
          Message.decode padded = Message.decode bytes) ∧
      ∀ bytes : Bytes, ¬MeetsGroup .frame 0 bytes → ∀ path,
        Frame.decode bytes ≠ .error ⟨path, .tooDeep⟩ ∧
          Message.decode bytes ≠ .error (.decode (.wire ⟨path, .tooDeep⟩)) := by
  refine ⟨fun l s u key depth hu hunknown budget rest => ?_,
    fun bytes padded f hpadded hdecode => ?_, fun bytes hmeets path => ?_⟩
  · have hnone := l.readers_eq_none hunknown
    exact ⟨fun hle => hu.mergeRecord_unknown hnone hle rest,
      fun hlt => hu.mergeRecord_tooDeep hnone hlt rest⟩
  · have hframe : Frame.decode padded = .ok f :=
      (Wire.merge_eq_ok_iff Frame.isSteady).mpr
        (hpadded.merges ((Wire.merge_eq_ok_iff Frame.isSteady).mp hdecode))
    have henvelope : Envelope.decode padded = Envelope.decode bytes := by
      rw [Envelope.decode, Envelope.decode, hframe, hdecode]
    refine ⟨hframe, henvelope, ?_⟩
    rw [Message.decode, Message.decode, henvelope]
  · have hroom := Layer.frame.hasRoom (show Layer.frame.height < maxDepth by decide) hmeets
    have hframe : Frame.decode bytes ≠ .error ⟨path, .tooDeep⟩ :=
      (hroom bytes.length none).bind (fun _ _ => Wire.shallow_ok _) path
    exact ⟨hframe, fun h => hframe (Message.decode_of_wire h)⟩

/-- A report on the spectrum, of a moment given in whole seconds. -/
def plainReport : Bytes := [0x3a, 11, 0xba, 1, 8, 0x0a, 2, 8, 5, 0x12, 2, 1, 2]

/-- The same with a number in front of it, and with a group in the moment that has a number in it.
-/
def paddedReport : Bytes :=
  [0x40, 7, 0x3a, 15, 0xba, 1, 12, 0x0a, 6, 8, 5, 0x4b, 8, 1, 0x4c, 0x12, 2, 1, 2]

lemma isRecord_group : IsRecord ([0x4b] ++ ([8] ++ ([1] ++ [0x4c]))) ⟨9, .startGroup⟩ 2 := by
  have hnumber : IsValue ⟨1, .varint⟩ 1 [1] := .number (n := 1) (Wire.isNumber_of_read (by decide))
  exact ⟨_, _, rfl, Wire.isKey_of_read (by decide),
    .inGroup (Wire.isKey_of_read (by decide)) hnumber (.close (Wire.isKey_of_read (by decide)))⟩

lemma padded_report : Padded .frame maxDepth plainReport paddedReport := by
  have hseconds : IsRecord ([8] ++ [5]) ⟨1, .varint⟩ 1 :=
    ⟨_, _, rfl, Wire.isKey_of_read (by decide),
      .number (n := 5) (Wire.isNumber_of_read (by decide))⟩
  have hlevels : IsRecord ([0x12] ++ ([2] ++ [1, 2])) ⟨2, .lengthDelimited⟩ 1 :=
    ⟨_, _, rfl, Wire.isKey_of_read (by decide), .sized (Wire.isNumber_of_read (by decide))⟩
  have hnumber : IsRecord ([0x40] ++ [7]) ⟨8, .varint⟩ 1 :=
    ⟨_, _, rfl, Wire.isKey_of_read (by decide),
      .number (n := 7) (Wire.isNumber_of_read (by decide))⟩
  have hmoment : Padded (.submessage Physical.timestamp) 97 ([8, 5] ++ [])
      ([8, 5] ++ ([0x4b, 8, 1, 0x4c] ++ [])) :=
    .keep hseconds (.insert isRecord_group (by decide) (by decide) (.nil _ _))
  have hreport : (Layer.body (Kind.shape (⟨22, by decide⟩ : Kind .phy))).within? 1
      = some (.submessage Physical.timestamp) := rfl
  have hbody : Padded (.body (Kind.shape (⟨22, by decide⟩ : Kind .phy))) 98
      ([0x0a] ++ ([2] ++ [8, 5]) ++ ([0x12, 2, 1, 2] ++ []))
      ([0x0a] ++ ([6] ++ [8, 5, 0x4b, 8, 1, 0x4c]) ++ ([0x12, 2, 1, 2] ++ [])) :=
    .inside hreport (Wire.isKey_of_read (by decide)) (Wire.isNumber_of_read (by decide))
      (Wire.isNumber_of_read (by decide)) hmoment (.keep hlevels (.nil _ _))
  have hdomain : Padded (.domain .phy) 99
      ([0xba, 1] ++ ([8] ++ [0x0a, 2, 8, 5, 0x12, 2, 1, 2]) ++ [])
      ([0xba, 1] ++ ([12] ++ [0x0a, 6, 8, 5, 0x4b, 8, 1, 0x4c, 0x12, 2, 1, 2]) ++ []) :=
    .inside (show (Layer.domain .phy).within? 23 = _ from rfl) (Wire.isKey_of_read (by decide))
      (Wire.isNumber_of_read (by decide)) (Wire.isNumber_of_read (by decide)) hbody (.nil _ _)
  have hframe : Padded .frame 100
      ([0x3a] ++ ([11] ++ [0xba, 1, 8, 0x0a, 2, 8, 5, 0x12, 2, 1, 2]) ++ [])
      ([0x3a] ++ ([15] ++ [0xba, 1, 12, 0x0a, 6, 8, 5, 0x4b, 8, 1, 0x4c, 0x12, 2, 1, 2]) ++ []) :=
    .inside (show Layer.frame.within? 7 = _ from rfl) (Wire.isKey_of_read (by decide))
      (Wire.isNumber_of_read (by decide)) (Wire.isNumber_of_read (by decide)) hdomain (.nil _ _)
  exact .insert hnumber (by decide) (by decide) hframe

/-- No group begins in a frame that is cut short behind the key of its domain. -/
lemma not_meetsGroup_key : ¬MeetsGroup .frame 0 [0x1a] := by
  have hread : Wire.readKey [0x1a] = .ok (⟨3, .lengthDelimited⟩, []) := by decide
  intro h
  generalize hbytes : ([0x1a] : Bytes) = bytes at h
  cases h with
  | here _ hk =>
      rw [hbytes, hk.read] at hread
      cases hread
  | inside _ _ hk hw _ _ =>
      rw [hbytes, hk.read, Except.ok.injEq, Prod.mk.injEq, List.append_eq_nil_iff] at hread
      exact List.ne_nil_of_length_pos hw.length_pos hread.2.1
  | later _ hr _ =>
      obtain ⟨k, v, rfl, hk, hv⟩ := hr
      rw [hbytes, List.append_assoc, hk.read, Except.ok.injEq, Prod.mk.injEq,
        List.append_eq_nil_iff] at hread
      exact List.ne_nil_of_length_pos hv.length_pos hread.2.1

/-- The group takes a budget of two. The padded report is the message that the plain one is, and the
frame that is cut short is at fault for something else than its nesting. -/
theorem Layer.unknown_inert_paddedReport :
    let moment := Layer.submessage Physical.timestamp
    let value : moment.Value := ((5 : UInt32), (0 : UInt32), ())
    (mergeRecord moment.name moment.readers 2 value ([0x4b, 8, 1, 0x4c] ++ [8]) = .ok (value, [8]) ∧
        mergeRecord moment.name moment.readers 1 value ([0x4b, 8, 1, 0x4c] ++ [8]) =
          .error (.plain .tooDeep)) ∧
      ((∃ f, Frame.decode plainReport = .ok f) ∧
        Message.decode paddedReport = Message.decode plainReport) ∧
      Frame.decode [0x1a] = .error ⟨[("Message", "msg")], .badVarint⟩ ∧
      Frame.decode [0x1a] ≠ .error ⟨[("Message", "msg")], .tooDeep⟩ := by
  intro moment value
  have hgroup := unknown_inert.1 moment value _ _ _ isRecord_group (by decide)
  have hplain : Frame.decode plainReport = .ok (some ⟨.phy, some ⟨(⟨22, by decide⟩ : Fin 23),
      ((some ((5 : UInt32), (0 : UInt32), ()) : Option (UInt32 × UInt32 × Unit)),
        ([1, 2] : List UInt32), ())⟩⟩) := by decide
  exact ⟨⟨(hgroup 2 [8]).1 (by decide), (hgroup 1 [8]).2 (by decide)⟩,
    ⟨⟨_, hplain⟩, (unknown_inert.2.1 _ _ _ padded_report hplain).2.2⟩,
    by decide, (unknown_inert.2.2 _ not_meetsGroup_key _).1⟩

end RadioFrame
