import Mathlib.Data.List.DropRight
import RadioFrame.Envelope
import RadioFrame.Proofs.Schema.Layers

/-!
Which domain and kind a frame of many records holds.

A frame may have any number of records, and so may the message of a domain in it. `Outline` tells
the records of known domains of a byte string, each with the tags of the records inside. One more
such record leaves its own domain, with the last kind that it names; if it names none, the kind that
was there stays, as long as the domain was the same (`advance`, `held_of_step`). Over a whole byte
string (`held_of_outline`) this comes to the last domain and to the last kind in the last run of
records of that domain (`runKinds`, `foldl_advance`).

`Envelope.decode_outline` says what an envelope makes of it.
-/

namespace RadioFrame

open Wire (IsKey IsNumber IsRecord Merges FieldReaders mergeRecord maxDepth)

/-! ### Outlines -/

/-- The tags of whole records, in order. -/
inductive TagsOf : Bytes → List Nat → Prop
  /-- No records have no tags. -/
  | nil : TagsOf [] []
  /-- A record stands before others. -/
  | cons {key : Wire.Key} {depth : Nat} {r bytes : Bytes} {tags : List Nat}
      (hr : IsRecord r key depth) (h : TagsOf bytes tags) : TagsOf (r ++ bytes) (key.tag :: tags)

/-- The records of known domains among whole records, in order, each with the tags of the records in
it. -/
inductive Outline : Bytes → List (Domain × List Nat) → Prop
  /-- There are none. -/
  | nil : Outline [] []
  /-- A record that is of no known domain is left out. -/
  | unknown {key : Wire.Key} {depth : Nat} {r bytes : Bytes} {rs : List (Domain × List Nat)}
      (hr : IsRecord r key depth) (hunknown : Domain.ofWireTag? key.tag = none)
      (h : Outline bytes rs) : Outline (r ++ bytes) rs
  /-- A record of a domain stands before others. -/
  | domain {d : Domain} {k w content bytes : Bytes} {tags : List Nat}
      {rs : List (Domain × List Nat)} (hk : IsKey k ⟨d.tag, .lengthDelimited⟩)
      (hw : IsNumber w content.length) (htags : TagsOf content tags) (h : Outline bytes rs) :
      Outline (k ++ (w ++ content) ++ bytes) ((d, tags) :: rs)

/-- The kinds that are named in the last run of records of a domain. -/
def runKinds (d : Domain) (rs : List (Domain × List Nat)) : List (Kind d) :=
  ((rs.rtakeWhile fun r => r.1 = d).flatMap (·.2)).filterMap (Kind.ofWireTag? d)

/-! ### What is held -/

/-- A domain, with a kind of it or without. -/
abbrev Held : Type := Option (OneOf fun d : Domain => Option (Kind d))

/-- The domain that a frame holds and the kind in it. -/
def Frame.held (f : Frame) : Held := f.map fun o => ⟨o.member, o.value.map OneOf.member⟩

/-- What is held after one more record of a domain. -/
def advance (h : Held) (r : Domain × List Nat) : Held :=
  some ⟨r.1, (r.2.filterMap (Kind.ofWireTag? r.1)).getLast?.or
    (OneOf.valueAt (fun _ => none) h r.1)⟩

lemma Frame.valueAt_held (f : Frame) (d : Domain) :
    OneOf.valueAt (fun _ => none) f.held d =
      (OneOf.valueAt (fun _ => none) f d).map OneOf.member := by
  obtain _ | ⟨d', branch⟩ := f
  · rfl
  · by_cases h : d' = d
    · subst h
      simp [held, OneOf.valueAt]
    · simp [held, OneOf.valueAt, h]

/-- The message of a domain holds the last kind that its records name, or what it held before. -/
lemma member_of_tagsOf {d : Domain} {budget : Nat} {bytes : Bytes} {tags : List Nat}
    (htags : TagsOf bytes tags) :
    ∀ {s t : Option (Branch d)},
      Merges Frame.messageName (Frame.branchReaders d) budget s bytes t →
      t.map OneOf.member
        = (tags.filterMap (Kind.ofWireTag? d)).getLast?.or (s.map OneOf.member) := by
  induction htags with
  | nil =>
      intro s t h
      rw [h.eq_of_nil]
      rfl
  | @cons key depth r bytes tags hr _ ih =>
      intro s t h
      obtain ⟨u, hu, hrest⟩ := h.of_append (Layer.domain d).takesValues hr
      rw [ih hrest]
      obtain ⟨k, v, rfl, hk, _⟩ := hr
      rcases hu.cases_of_oneOf hk with ⟨hno, rfl⟩ | ⟨kind, raw, hkind, rfl, _⟩
      · rw [List.filterMap_cons_none hno]
      · rw [List.filterMap_cons_some hkind, List.getLast?_cons]
        cases (tags.filterMap (Kind.ofWireTag? d)).getLast? with
        | none => rfl
        | some last => rfl

/-- One record of a domain advances what is held. -/
lemma held_of_step {d : Domain} {budget : Nat} {k w content : Bytes} {tags : List Nat}
    (hk : IsKey k ⟨d.tag, .lengthDelimited⟩) (hw : IsNumber w content.length)
    (htags : TagsOf content tags) {s t : Frame}
    (h : Wire.Consumes (mergeRecord Frame.messageName Frame.readers budget) s
      (k ++ (w ++ content)) t) : t.held = advance s.held (d, tags) := by
  rcases h.cases_of_oneOf hk with ⟨hno, _⟩ | ⟨d', branch, hd, rfl, hread⟩
  · rw [Domain.ofWireTag?_tag] at hno
    cases hno
  · rw [Domain.ofWireTag?_tag] at hd
    cases hd
    obtain ⟨_, left, x, c, _, hbytes, hx, hmerge⟩ :=
      (Wire.mergeDelimited_eq_ok_iff (Frame.isSteady_branch d)).mp hread
    rw [List.append_nil] at hbytes
    obtain ⟨_, rfl⟩ := hw.eq_of_append hx hbytes
    have hmember := member_of_tagsOf htags hmerge
    rw [← Frame.valueAt_held] at hmember
    rw [advance, ← hmember]
    rfl

/-- Whole records advance what is held by those of known domains. -/
theorem held_of_outline {budget : Nat} {bytes : Bytes} {rs : List (Domain × List Nat)}
    (houtline : Outline bytes rs) : ∀ {s t : Frame},
      Merges Frame.messageName Frame.readers budget s bytes t →
        t.held = rs.foldl advance s.held := by
  induction houtline with
  | nil =>
      intro s t h
      rw [h.eq_of_nil]
      rfl
  | unknown hr hunknown _ ih =>
      intro s t h
      obtain ⟨u, hu, hrest⟩ := h.of_append Layer.frame.takesValues hr
      obtain ⟨k, v, rfl, hk, _⟩ := hr
      rcases hu.cases_of_oneOf hk with ⟨_, rfl⟩ | ⟨_, _, hsome, _, _⟩
      · exact ih hrest
      · rw [hunknown] at hsome
        cases hsome
  | domain hk hw htags _ ih =>
      intro s t h
      obtain ⟨u, hu, hrest⟩ :=
        h.of_append Layer.frame.takesValues ⟨_, _, rfl, hk, .sized hw⟩
      rw [ih hrest, List.foldl_cons, held_of_step hk hw htags hu]

/-! ### The last run -/

lemma runKinds_concat_self (d : Domain) (rs : List (Domain × List Nat)) (tags : List Nat) :
    runKinds d (rs ++ [(d, tags)]) = runKinds d rs ++ tags.filterMap (Kind.ofWireTag? d) := by
  rw [runKinds, List.rtakeWhile_concat, if_pos (decide_eq_true rfl), List.flatMap_append,
    List.filterMap_append, List.flatMap_singleton]
  rfl

lemma runKinds_concat_of_ne {d : Domain} {r : Domain × List Nat} (h : r.1 ≠ d)
    (rs : List (Domain × List Nat)) : runKinds d (rs ++ [r]) = [] := by
  rw [runKinds, List.rtakeWhile_concat, if_neg fun heq => h (of_decide_eq_true heq)]
  rfl

/-- A kind in the last run of records of a domain is named by one of them. -/
lemma exists_of_mem_runKinds {d : Domain} {rs : List (Domain × List Nat)} {k : Kind d}
    (h : k ∈ runKinds d rs) : ∃ tags, (d, tags) ∈ rs ∧ Kind.tag k ∈ tags := by
  obtain ⟨tag, htag, hk⟩ := List.mem_filterMap.mp h
  obtain ⟨⟨d', tags⟩, hr, hmem⟩ := List.mem_flatMap.mp htag
  have hd := List.mem_rtakeWhile_imp hr
  obtain rfl : d' = d := of_decide_eq_true hd
  have hown : k.tag = tag := k.wireTag_eq_tag.symm.trans (Kind.wireTag_of_ofWireTag? hk)
  exact ⟨tags, (List.rtakeWhile_suffix _ _).mem hr, hown ▸ hmem⟩

/-- Records of domains hold the last domain, with the last kind in the last run of its records. -/
theorem foldl_advance (rs : List (Domain × List Nat)) :
    rs.foldl advance none = rs.getLast?.map fun r => ⟨r.1, (runKinds r.1 rs).getLast?⟩ := by
  induction rs using List.reverseRecOn with
  | nil => rfl
  | append_singleton rs r ih =>
      obtain ⟨d, tags⟩ := r
      have hbefore : OneOf.valueAt (fun _ => none) (rs.foldl advance none) d
          = (runKinds d rs).getLast? := by
        rw [ih]
        rcases rs.eq_nil_or_concat' with rfl | ⟨before, r, rfl⟩
        · rfl
        · rw [List.getLast?_concat, Option.map_some]
          by_cases heq : r.1 = d
          · subst heq
            simp [OneOf.valueAt]
          · rw [runKinds_concat_of_ne heq]
            simp [OneOf.valueAt, heq]
      rw [List.foldl_concat, advance, hbefore, List.getLast?_concat, Option.map_some,
        runKinds_concat_self, List.getLast?_append]

/-! ### Bytes that are read have an outline -/

/-- Whole records have tags. -/
lemma exists_tagsOf {σ : Type} {fields : FieldReaders σ} (hfields : Wire.TakesValues fields)
    {name : String} {budget : Nat} {ws : List Bytes} {s t : σ}
    (h : Wire.Leads (Wire.Consumes (mergeRecord name fields budget)) s ws t) :
    ∃ tags, TagsOf ws.flatten tags := by
  induction h with
  | nil _ => exact ⟨[], .nil⟩
  | @cons s u t w ws hw _ ih =>
      obtain ⟨tags, htags⟩ := ih
      obtain ⟨key, depth, hrecord⟩ := hw.exists_isRecord hfields
      exact ⟨key.tag :: tags, .cons hrecord htags⟩

/-- Bytes that are read as a frame have an outline. -/
lemma exists_outline {budget : Nat} {ws : List Bytes} {s t : Frame}
    (h : Wire.Leads (Wire.Consumes (mergeRecord Frame.messageName Frame.readers budget)) s ws t) :
    ∃ rs, Outline ws.flatten rs := by
  induction h with
  | nil _ => exact ⟨[], .nil⟩
  | @cons s u t w ws hw _ ih =>
      obtain ⟨rs, hrs⟩ := ih
      obtain ⟨key, depth, hrecord⟩ := hw.exists_isRecord Layer.frame.takesValues
      rw [List.flatten_cons]
      cases hd : Domain.ofWireTag? key.tag with
      | none => exact ⟨rs, .unknown hrecord hd hrs⟩
      | some d =>
          obtain ⟨k, v, rfl, hk, _⟩ := hrecord
          obtain ⟨tag, wireType⟩ := key
          rcases hw.cases_of_oneOf hk with ⟨hno, _⟩ | ⟨d', _, hd', _, hread⟩
          · rw [hno] at hd
            cases hd
          · rw [hd] at hd'
            cases hd'
            obtain rfl : d.tag = tag :=
              d.wireTag_eq_tag.symm.trans (Domain.wireTag_of_ofWireTag? hd)
            obtain ⟨rfl, _, x, content, _, hv, hx, ws', rfl, hws⟩ :=
              (Wire.mergeDelimited_eq_ok_iff (Frame.isSteady_branch d)).mp hread
            rw [List.append_nil] at hv
            subst hv
            obtain ⟨tags, htags⟩ := exists_tagsOf (Layer.domain d).takesValues hws
            exact ⟨(d, tags) :: rs, .domain hk hx htags hrs⟩

/-! ### Envelopes -/

namespace Envelope

variable {bytes : Bytes} {f : Frame}

lemma decode_of_held_none (hf : Frame.decode bytes = .ok f) (h : f.held = none) :
    decode bytes = .error .noDomain := by
  obtain rfl := Option.map_eq_none_iff.mp h
  rw [decode, hf]
  rfl

lemma decode_of_held_domain (hf : Frame.decode bytes = .ok f) {d : Domain}
    (h : f.held = some ⟨d, none⟩) : decode bytes = .error (.unknownKind d) := by
  obtain _ | ⟨d', _ | branch⟩ := f
  · cases h
  · cases h
    rw [decode, hf]
    rfl
  · cases h

lemma decode_of_held_kind (hf : Frame.decode bytes = .ok f) {d : Domain} {k : Kind d}
    (h : f.held = some ⟨d, some k⟩) :
    decode bytes = .ok ⟨f⟩ ∧ domain ⟨f⟩ = .ok d ∧ messageType ⟨f⟩ = .ok ⟨d, k⟩ := by
  obtain _ | ⟨d', _ | branch⟩ := f
  · cases h
  · cases h
  · cases h
    rw [decode, hf]
    exact ⟨rfl, rfl, rfl⟩

/-- The three things that an envelope can make of the records of its bytes. -/
lemma decode_cases_of_outline (hf : Frame.decode bytes = .ok f) {rs : List (Domain × List Nat)}
    (hrs : Outline bytes rs) :
    (rs = [] ∧ decode bytes = .error .noDomain) ∨
      ∃ d tags, rs.getLast? = some (d, tags) ∧
        ((runKinds d rs = [] ∧ decode bytes = .error (.unknownKind d)) ∨
          ∃ k, (runKinds d rs).getLast? = some k ∧ decode bytes = .ok ⟨f⟩ ∧
            domain ⟨f⟩ = .ok d ∧ messageType ⟨f⟩ = .ok ⟨d, k⟩) := by
  have hheld : f.held = rs.getLast?.map fun r => ⟨r.1, (runKinds r.1 rs).getLast?⟩ :=
    (held_of_outline hrs ((Wire.merge_eq_ok_iff Frame.isSteady).mp hf)).trans (foldl_advance rs)
  cases hlast : rs.getLast? with
  | none =>
      rw [hlast] at hheld
      exact .inl ⟨List.getLast?_eq_none_iff.mp hlast, decode_of_held_none hf hheld⟩
  | some r =>
      obtain ⟨d, tags⟩ := r
      rw [hlast, Option.map_some] at hheld
      refine .inr ⟨d, tags, rfl, ?_⟩
      cases hkind : (runKinds d rs).getLast? with
      | none =>
          rw [hkind] at hheld
          exact .inl ⟨List.getLast?_eq_none_iff.mp hkind, decode_of_held_domain hf hheld⟩
      | some k =>
          rw [hkind] at hheld
          exact .inr ⟨k, rfl, decode_of_held_kind hf hheld⟩

/-- The domain and the kind of an envelope are told by the records of its bytes: the domain is the
last that is known, and the kind the last that is known in the last run of records of that domain.
There is no other domain or kind, and none by default. -/
theorem decode_outline (bytes : Bytes) :
    (∀ fault, Frame.decode bytes = .error fault → decode bytes = .error (.wire fault)) ∧
      ∀ f, Frame.decode bytes = .ok f →
        (∃ rs, Outline bytes rs) ∧ ∀ rs, Outline bytes rs →
          (decode bytes = .error .noDomain ↔ rs = []) ∧
          (∀ d tags, rs.getLast? = some (d, tags) →
            (runKinds d rs = [] → decode bytes = .error (.unknownKind d)) ∧
            ∀ k, (runKinds d rs).getLast? = some k →
              ∃ e, decode bytes = .ok e ∧ e.domain = .ok d ∧ e.messageType = .ok ⟨d, k⟩) ∧
          ∀ e, decode bytes = .ok e → ∃ t tags,
            e.messageType = .ok t ∧ (t.domain, tags) ∈ rs ∧ t.kindTag ∈ tags := by
  refine ⟨fun fault hf => by rw [decode, hf]; rfl, fun f hf => ⟨?_, fun rs hrs => ?_⟩⟩
  · obtain ⟨ws, rfl, hws⟩ := (Wire.merge_eq_ok_iff Frame.isSteady).mp hf
    exact exists_outline hws
  rcases decode_cases_of_outline hf hrs with
    ⟨rfl, hdecode⟩ | ⟨d, tags, hlast, ⟨hnone, hdecode⟩ | ⟨k, hkind, hdecode, hdomain, htype⟩⟩
  · rw [hdecode]
    exact ⟨iff_of_true rfl rfl, fun _ _ h => (nomatch h), fun _ h => nomatch h⟩
  · have hne : rs ≠ [] := List.getLast?_isSome.mp (by rw [hlast]; rfl)
    rw [hdecode, hlast]
    refine ⟨iff_of_false (fun h => nomatch h) hne, fun d' tags' h => ?_, fun _ h => nomatch h⟩
    cases h
    rw [hnone]
    exact ⟨fun _ => rfl, fun _ h => nomatch h⟩
  · have hne : rs ≠ [] := List.getLast?_isSome.mp (by rw [hlast]; rfl)
    have hmem := List.mem_of_getLast? hkind
    rw [hdecode, hlast]
    refine ⟨iff_of_false (fun h => nomatch h) hne, fun d' tags' h => ?_, fun e he => ?_⟩
    · cases h
      rw [hkind]
      refine ⟨fun hnil => absurd (hnil ▸ hmem) List.not_mem_nil, fun k' hk' => ?_⟩
      cases hk'
      exact ⟨⟨f⟩, rfl, hdomain, htype⟩
    · cases he
      obtain ⟨tags', hr, htag⟩ := exists_of_mem_runKinds hmem
      exact ⟨⟨d, k⟩, tags', htype, hr, htag⟩

/-- The command to start, and behind it a message of the same domain that names no kind. -/
def keptStart : Bytes := [0x1a, 3, 0x9a, 1, 0, 0x1a, 0]

/-- The same with a message of another domain in between. -/
def lostStart : Bytes := [0x1a, 3, 0x9a, 1, 0, 0x2a, 0, 0x1a, 0]

lemma outline_start {bytes : Bytes} {rs : List (Domain × List Nat)} (h : Outline bytes rs) :
    Outline ([0x1a] ++ ([3] ++ [0x9a, 1, 0]) ++ bytes) ((.ble, [19]) :: rs) := by
  have hvalue : Wire.IsValue ⟨19, .lengthDelimited⟩ 1 ([0] ++ []) :=
    .sized (Wire.isNumber_of_read (by decide))
  have hbody : IsRecord ([0x9a, 1] ++ [0]) ⟨19, .lengthDelimited⟩ 1 :=
    ⟨_, _, rfl, Wire.isKey_of_read (by decide), hvalue⟩
  have htags : TagsOf ([0x9a, 1, 0] ++ []) [19] := .cons hbody .nil
  exact .domain (Wire.isKey_of_read (by decide)) (Wire.isNumber_of_read (by decide)) htags h

lemma outline_nothing {d : Domain} {b : UInt8}
    (hb : Wire.readKey [b] = .ok (⟨d.tag, .lengthDelimited⟩, [])) {bytes : Bytes}
    {rs : List (Domain × List Nat)} (h : Outline bytes rs) :
    Outline ([b] ++ ([0] ++ []) ++ bytes) ((d, []) :: rs) :=
  .domain (Wire.isKey_of_read hb) (Wire.isNumber_of_read (by decide)) .nil h

/-- The kind is kept by a message of its domain that names none, but not across another domain.
Where no domain is known there is none, and a frame that is cut short is a fault of the wire. -/
theorem decode_outline_start :
    (∃ e, decode keptStart = .ok e ∧ e.domain = .ok .ble ∧
        e.messageType = .ok ⟨.ble, (18 : Fin 38)⟩) ∧
      decode lostStart = .error (.unknownKind .ble) ∧
      decode [0x40, 7] = .error .noDomain ∧
      decode [0x1a] = .error (.wire ⟨[("Message", "msg")], .badVarint⟩) := by
  have hkept : Outline keptStart [(.ble, [19]), (.ble, [])] :=
    outline_start (outline_nothing (b := 0x1a) (by decide) .nil)
  have hlost : Outline lostStart [(.ble, [19]), (.esb, []), (.ble, [])] :=
    outline_start (outline_nothing (b := 0x2a) (by decide)
      (outline_nothing (b := 0x1a) (by decide) .nil))
  have hnumber : IsRecord ([0x40] ++ [7]) ⟨8, .varint⟩ 1 :=
    ⟨_, _, rfl, Wire.isKey_of_read (by decide),
      .number (n := 7) (Wire.isNumber_of_read (by decide))⟩
  have hstray : Outline ([0x40, 7] ++ []) [] := .unknown hnumber rfl .nil
  have hkept' : Frame.decode keptStart = .ok (some ⟨.ble, some ⟨(18 : Fin 38), ()⟩⟩) := by decide
  have hlost' : Frame.decode lostStart = .ok (some ⟨.ble, none⟩) := by decide
  have hstray' : Frame.decode [0x40, 7] = .ok none := by decide
  exact ⟨(((decode_outline keptStart).2 _ hkept').2 _ hkept).2.1 .ble [] rfl |>.2 _ (by decide),
    (((decode_outline lostStart).2 _ hlost').2 _ hlost).2.1 .ble [] rfl |>.1 (by decide),
    (((decode_outline [0x40, 7]).2 _ hstray').2 _ hstray).1.mpr rfl,
    (decode_outline [0x1a]).1 _ (by decide)⟩

end Envelope

end RadioFrame
