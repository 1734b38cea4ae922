import RadioFrame.Message
import RadioFrame.Proofs.Schema.Requirements

/-!
Which bodies are accepted, and what is said of the others.

* `MessageType.requirements` lists what is asked of a raw body: of its fields in the order of their
  declaration, and last of an address of IEEE 802.15.4 that is said to be short.
* `Validation.published` lists for every kind the constraints of the protocol on its fields, in
  order: the bounds of payloads, the lengths of addresses and keys, the declared numbers, what has
  to be there.

`Body.check_eq_firstViolation` states that a body is accepted just when all requirements are kept,
that otherwise the first that is not is reported, and that what is required is what is published.
-/

namespace RadioFrame

/-! ### Short addresses -/

/-- An address that is said to be short has to fit two bytes. -/
def Zigbee.shortAddressRequirements (raw : setNodeAddress.Raw) : List Requirement :=
  let address : UInt64 := raw.1
  let kind : Int32 := raw.2.1
  if kind = 0 then [⟨"address", .fits 2, .number address.toNat⟩] else []

namespace MessageType

/-- What is asked of several fields together. -/
def jointRequirements : (t : MessageType) → t.shape.Raw → List Requirement
  | ⟨.zigbee, ⟨0, _⟩⟩, raw => Zigbee.shortAddressRequirements raw
  | _, _ => []

/-- What is asked of a body, in the order in which it is asked. -/
def requirements (t : MessageType) (raw : t.shape.Raw) : List Requirement :=
  t.shape.requirements raw ++ t.jointRequirements raw

/-- What is asked of several fields together, whatever they hold. -/
def jointConstraints : MessageType → List (String × Constraint)
  | ⟨.zigbee, ⟨0, _⟩⟩ => [("address", .fits 2)]
  | _ => []

/-- What is asked of the bodies of a type, in the order in which it is asked. -/
def constraints (t : MessageType) : List (String × Constraint) :=
  t.shape.constraints ++ t.jointConstraints

end MessageType

/-! ### The constraints of the protocol -/

namespace Validation

/-- One of so many words, numbered from zero. -/
def words (count : Nat) : Constraint := .declared ((List.range count).map Int.ofNat)

/-- The numbers of the radio domains: twelve, in the top byte. -/
def radioDomains : List Int := (List.range 12).map fun i => i * 2 ^ 24

/-- The constraints on advertising data. -/
def advertisement : List (String × Constraint) :=
  [("scan_data", .atMost 31), ("scanrsp_data", .atMost 31)]

/-- The constraints on the kinds that Enhanced ShockBurst and Logitech Unifying share. -/
def shockBurst : List (String × List (String × Constraint)) :=
  [("SetNodeAddress", [("address", .atMost 5)]),
    ("SniffMode", [("address", .atMost 5)]),
    ("SendPdu", [("pdu", .atMost 255)]),
    ("SendRawPdu", [("pdu", .atMost 255)]),
    ("RawPduReceived", [("address", .atMost 5), ("pdu", .atMost 255)]),
    ("PduReceived", [("address", .atMost 5), ("pdu", .atMost 255)])]

/-- The constraints on every kind that has any, in the order in which they are checked. -/
def published : Domain → List (String × List (String × Constraint))
  | .generic =>
      [("CmdResult", [("result", words 7)]),
        ("Verbose", [("data", .atMost 255)]),
        ("DebugMessage", [("data", .atMost 255)])]
  | .discovery =>
      [("InfoResp",
          [("device_type", words 8), ("devid", .atMost 16), ("fw_author", .atMost 64),
            ("fw_url", .atMost 64), ("capabilities", .declaredOnTop radioDomains)]),
        ("DomainQuery", [("domain", .declared radioDomains)]),
        ("DomainResp", [("domain", .declared radioDomains)])]
  | .ble =>
      [("SetBdAddress", [("bd_address", .exactly 6), ("addr_type", words 2)]),
        ("SniffAdv", [("bd_address", .exactly 6)]),
        ("ReactiveJam", [("pattern", .atMost 20)]),
        ("SniffConnReq", [("bd_address", .exactly 6)]),
        ("SniffAccessAddress", [("monitored_channels", .exactly 5)]),
        ("SniffActiveConn", [("channel_map", .exactly 5), ("monitored_channels", .exactly 5)]),
        ("AdvMode", advertisement),
        ("SetAdvData", advertisement),
        ("ConnectTo",
          [("bd_address", .exactly 6), ("addr_type", words 2), ("channel_map", .exactly 5)]),
        ("SendRawPdu", [("direction", words 5), ("pdu", .atMost 255)]),
        ("SendPdu", [("direction", words 5), ("pdu", .atMost 255)]),
        ("PeripheralMode", advertisement),
        ("SetEncryption",
          [("ll_key", .exactly 16), ("ll_iv", .exactly 8), ("key", .exactly 16),
            ("rand", .exactly 8), ("ediv", .exactly 2)]),
        ("PrepareSequence",
          [("direction", words 5), ("trigger", .present), ("pattern", .atMost 20),
            ("mask", .atMost 20), ("sequence", .atMost 255)]),
        ("AdvPduReceived",
          [("adv_type", words 6), ("bd_address", .exactly 6), ("adv_data", .atMost 31),
            ("addr_type", words 2)]),
        ("Connected",
          [("initiator", .exactly 6), ("advertiser", .exactly 6), ("adv_addr_type", words 2),
            ("init_addr_type", words 2)]),
        ("Synchronized", [("channel_map", .exactly 5)]),
        ("RawPduReceived", [("direction", words 5), ("pdu", .atMost 255)]),
        ("PduReceived", [("direction", words 5), ("pdu", .atMost 255)])]
  | .zigbee =>
      [("SetNodeAddress", [("address_type", words 2), ("address", .fits 2)]),
        ("SendPdu", [("pdu", .atMost 255)]),
        ("SendRawPdu", [("pdu", .atMost 255)]),
        ("ManInTheMiddleMode", [("role", words 2)]),
        ("RawPduReceived", [("pdu", .atMost 255)]),
        ("PduReceived", [("pdu", .atMost 255)])]
  | .esb => shockBurst
  | .unifying => shockBurst
  | .phy =>
      [("SetLoRaModulation", [("spreading_factor", words 6), ("coding_rate", words 4)]),
        ("SetEndianness", [("endianness", words 2)]),
        ("SetTxPower", [("tx_power", words 3)]),
        ("SetSyncWord", [("sync_word", .atMost 10)]),
        ("SendPacket", [("packet", .atMost 255)]),
        ("JamMode", [("mode", words 2)]),
        ("PacketReceived", [("packet", .atMost 255)]),
        ("Jammed", [("timestamp", .present)])]

/-- The published constraints are those of the kinds. -/
lemma constraints_eq_published (d : Domain) :
    ((Kind.all d).map fun k => (Kind.name k, MessageType.constraints ⟨d, k⟩)).filter
        (fun c => c.2 ≠ []) = published d := by
  cases d <;> decide

end Validation

/-! ### What ties fields together -/

/-- Only addresses of IEEE 802.15.4 are tied to another field. -/
lemma rule_eq_none {d : Domain} (hd : d ≠ .zigbee) :
    ∀ s ∈ d.shapes, ∀ row, s.rule row = none := by
  cases d with
  | zigbee => exact absurd rfl hd
  | generic | discovery | ble | esb | unifying | phy =>
      repeat
        first
        | exact List.forall_mem_nil _
        | refine List.forall_mem_cons.mpr ⟨fun _ => rfl, ?_⟩

lemma Zigbee.rule_eq_none : ∀ s ∈ shapes.tail, ∀ row, s.rule row = none := by
  repeat
    first
    | exact List.forall_mem_nil _
    | refine List.forall_mem_cons.mpr ⟨fun _ => rfl, ?_⟩

/-- Only the command that sets an address of IEEE 802.15.4 ties its fields together. -/
lemma MessageType.rule_cases (t : MessageType) :
    t = ⟨.zigbee, ⟨0, by decide⟩⟩ ∨
      (∀ row, t.shape.rule row = none) ∧ ∀ raw, t.jointRequirements raw = [] := by
  obtain ⟨d, k⟩ := t
  by_cases hd : d = .zigbee
  · subst hd
    obtain ⟨_ | n, hn⟩ := k
    · exact .inl rfl
    · have hmem : Kind.shape ⟨n + 1, hn⟩ ∈ Zigbee.shapes.tail :=
        List.getElem_mem (l := Zigbee.shapes.tail) (Nat.lt_of_succ_lt_succ hn)
      exact .inr ⟨Zigbee.rule_eq_none _ hmem, fun _ => rfl⟩
  · refine .inr ⟨rule_eq_none hd (Kind.shape k) (List.getElem_mem _), fun raw => ?_⟩
    cases d with
    | zigbee => exact absurd rfl hd
    | generic | discovery | ble | esb | unifying | phy => rfl

/-- The least number of bytes that hold a number is the number of its digits to the base 256. -/
lemma byteWidth_eq {n : Nat} (h : n < 2 ^ 64) : byteWidth n = (Nat.digits 256 n).length := by
  have hlength : (Nat.digits 256 n).length ≤ 8 := (Nat.digits_length_le_iff (by decide) n).mpr h
  have hcount : ∀ l ≤ 8, (List.range 8).countP (fun i => decide (i < l)) = l := by decide
  rw [byteWidth, ← hcount _ hlength]
  simp only [Nat.lt_digits_length_iff (b := 256) (by decide), Nat.pow_eq]

lemma Zigbee.number_eq_zero_iff (w : addressType.Word) :
    Vocabulary.number w = 0 ↔ w = addressType.first := by
  revert w
  decide

/-- The rule on short addresses decides what is asked of them. -/
lemma Zigbee.decides_shortAddress (address : UInt64) (kind : addressType.Word) :
    (if kind = addressType.first ∧ 2 ^ 16 ≤ address.toNat then
        some (⟨"address", .overflow ⟨byteWidth address.toNat, 2⟩⟩ : Violation) else none)
      = firstViolation (if Vocabulary.number kind = 0 then
          [⟨"address", .fits 2, .number address.toNat⟩] else []) := by
  have hfits : (⟨"address", .fits 2, .number address.toNat⟩ : Requirement).kept
      = decide ((address.toNat : Int) < 256 ^ 2) := rfl
  by_cases hkind : kind = addressType.first
  · rw [if_pos ((number_eq_zero_iff kind).mpr hkind)]
    by_cases hlong : 2 ^ 16 ≤ address.toNat
    · have hbroken : (⟨"address", .fits 2, .number address.toNat⟩ : Requirement).kept = false := by
        rw [hfits, decide_eq_false (by omega)]
      have hfind := List.find?_cons_of_pos (p := fun r : Requirement => !r.kept) (l := [])
        (by rw [hbroken]; rfl)
      rw [if_pos ⟨hkind, hlong⟩, firstViolation, hfind, Option.map_some, Requirement.violation,
        Constraint.flaw, Int.toNat_natCast, byteWidth_eq address.toNat_lt]
    · have hkept : (⟨"address", .fits 2, .number address.toNat⟩ : Requirement).kept = true := by
        rw [hfits, decide_eq_true (by omega)]
      rw [if_neg fun h => hlong h.2]
      exact (firstViolation_eq_none_iff.mpr fun r hr => (List.mem_singleton.mp hr) ▸ hkept).symm
  · rw [if_neg fun h => hkind h.1, if_neg fun h => hkind ((number_eq_zero_iff kind).mp h)]
    rfl

/-! ### Bodies -/

/-- Putting fields together fails just when the rule of the shape says so. -/
lemma Body.failure?_ofRow {s : Shape} (row : Row Field.Value s.fields) :
    failure? ((ofRow s row).mapError fun (field, overflow) => ⟨field, .overflow overflow⟩)
      = (s.rule row).map fun (field, overflow) => ⟨field, .overflow overflow⟩ := by
  rw [ofRow]
  split
  · next h => exact (congrArg (Option.map _) h).symm
  · next e h =>
      have hmap := congrArg
        (Option.map fun (field, overflow) => (⟨field, .overflow overflow⟩ : Violation)) h
      exact hmap.symm

/-- The rule of a shape decides what is asked of several fields together. -/
lemma MessageType.decides_rule (t : MessageType) (row : Row Field.Value t.shape.fields) :
    (t.shape.rule row).map (fun (field, overflow) => (⟨field, .overflow overflow⟩ : Violation))
      = firstViolation (t.jointRequirements (row.map Field.toRaw)) := by
  rcases t.rule_cases with rfl | ⟨hrule, hnone⟩
  · obtain ⟨address, kind, ⟨⟩⟩ : UInt64 × addressType.Word × Unit := row
    refine Eq.trans ?_ (Zigbee.decides_shortAddress address kind)
    change Option.map _ (if kind = addressType.first ∧ 2 ^ 16 ≤ address.toNat then
      some ("address", (⟨byteWidth address.toNat, 2⟩ : Overflow)) else none) = _
    rw [apply_ite (Option.map _), Option.map_some, Option.map_none]
  · rw [hrule, hnone]
    rfl

/-- What is asked of several fields of a raw body is asked by the type. -/
lemma MessageType.asked_mem_joint (t : MessageType) (raw : t.shape.Raw) :
    ∀ r ∈ t.jointRequirements raw, r.asked ∈ t.jointConstraints := by
  obtain ⟨d, k⟩ := t
  intro r hr
  cases d with
  | generic | discovery | ble | esb | unifying | phy => exact absurd hr List.not_mem_nil
  | zigbee =>
      obtain ⟨_ | n, hn⟩ := k
      · obtain ⟨address, kind, ⟨⟩⟩ : UInt64 × Int32 × Unit := raw
        change r ∈ (if kind = 0 then [⟨"address", .fits 2, .number address.toNat⟩] else []) at hr
        split at hr
        · rw [List.mem_singleton.mp hr]
          exact List.mem_cons_self
        · exact absurd hr List.not_mem_nil
      · exact absurd hr List.not_mem_nil

/-- The check of a body decides what is asked of it. -/
lemma Body.decides (t : MessageType) (raw : t.shape.Raw) :
    Decides (Body.check t.shape raw) (t.requirements raw) := by
  refine (t.shape.decides raw).bind fun row hrow => ?_
  have hraw : row.map Field.toRaw = raw :=
    (Exact.tryMap (fun f : Field => f.form.exact f.name) _ raw row).mp hrow
  rw [Decides, Body.failure?_ofRow, t.decides_rule row, hraw]

/-- A body is accepted just when all that is asked of it is kept, and otherwise the first violation
is reported. What is asked of it are the published constraints on its kind. -/
theorem Body.check_eq_firstViolation :
    (∀ (t : MessageType) (raw : t.shape.Raw),
      ((∃ b, Body.check t.shape raw = .ok b) ↔ ∀ r ∈ t.requirements raw, r.kept = true) ∧
        (∀ v, Body.check t.shape raw = .error v ↔
          firstViolation (t.requirements raw) = some v) ∧
        ∀ r ∈ t.requirements raw, r.asked ∈ t.constraints) ∧
      ∀ d : Domain, ((Kind.all d).map fun k =>
          (Kind.name k, MessageType.constraints ⟨d, k⟩)).filter (fun c => c.2 ≠ [])
        = Validation.published d := by
  refine ⟨fun t raw => ?_, Validation.constraints_eq_published⟩
  have hdecides := Body.decides t raw
  rw [← firstViolation_eq_none_iff, ← hdecides]
  refine ⟨?_, ?_, ?_⟩
  · cases Body.check t.shape raw with
    | ok b => exact ⟨fun _ => rfl, fun _ => ⟨b, rfl⟩⟩
    | error v => simp [failure?]
  · intro v
    cases Body.check t.shape raw with
    | ok b => simp [failure?]
    | error w => simp [failure?]
  · intro r hr
    rw [MessageType.constraints, List.mem_append]
    rcases List.mem_append.mp hr with hr | hr
    · exact .inl (t.shape.asked_mem raw r hr)
    · exact .inr (t.asked_mem_joint raw r hr)

/-- Prepared sequences. -/
def MessageType.prepareSequence : MessageType := ⟨.ble, (24 : Fin 38)⟩

/-- A prepared sequence of an unknown direction that nothing triggers. -/
def MessageType.untriggered : prepareSequence.shape.Raw :=
  ((7 : UInt32), (9 : Int32), none, ([] : List Bytes), ())

/-- Of the two violations of the sequence the one of the direction is reported. -/
theorem Body.check_untriggered :
    firstViolation (MessageType.prepareSequence.requirements MessageType.untriggered)
        = some ⟨"direction", .unknownNumber 9⟩ ∧
      Body.check MessageType.prepareSequence.shape MessageType.untriggered
        = .error ⟨"direction", .unknownNumber 9⟩ ∧
      ⟨"trigger", .present, .absent⟩
        ∈ MessageType.prepareSequence.requirements MessageType.untriggered ∧
      ("trigger", Constraint.present) ∈ MessageType.prepareSequence.constraints :=
  have hfirst : firstViolation (MessageType.prepareSequence.requirements MessageType.untriggered)
      = some ⟨"direction", .unknownNumber 9⟩ := by decide
  have htrigger : ⟨"trigger", .present, .absent⟩
      ∈ MessageType.prepareSequence.requirements MessageType.untriggered :=
    List.mem_of_getElem? (i := 1) rfl
  ⟨hfirst, ((check_eq_firstViolation.1 _ _).2.1 _).mpr hfirst, htrigger,
    (check_eq_firstViolation.1 _ _).2.2 _ htrigger⟩

end RadioFrame
