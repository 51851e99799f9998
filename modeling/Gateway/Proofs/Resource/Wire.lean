/-
This file proves that results survive the wire. Each record leaves out what is empty or absent and
reading it puts the default there, so an entry that was written reads as the entry with its octets
read, to any depth of lists. Two things do not come back: a statement that was not answered is
written as null, which is no entry, and a snapshot cannot tell a request whose body is null from one
without a body. What was read from the wire holds neither of them, nor octets, so it is restored as
it is.
-/

import Gateway.Proofs.Json.Shape
import Gateway.Proofs.Resource.Decoded

namespace Gateway

open RecordShape (Leads)

/-! ### Reading what was written -/

namespace CachePolicy

theorem getD_nonempty? (policy : CachePolicy) : policy.nonempty?.getD {} = policy := by
  obtain ⟨noCache, maxAge, sharedMaxAge⟩ := policy
  cases noCache <;> cases maxAge <;> cases sharedMaxAge <;> rfl

theorem decode_toJson (policy : CachePolicy) : decode policy.toJson = .ok policy := by
  obtain ⟨noCache, maxAge, sharedMaxAge⟩ := policy
  have read (age : Int64) :
      Json.decodeOption Json.decodeInt64 (Json.ofInt64 age) = .ok (some age) :=
    Json.decodeOption_of_ne_null nofun (Json.decodeInt64_ofInt64 age)
  have noCacheLeads : Leads shape set (if noCache then [("noCache", .bool true)] else []) {}
      { noCache } := by
    cases noCache with
    | false => exact .nil
    | true => exact .cons (by decide) rfl .nil
  have maxAgeLeads : Leads shape set (maxAge.map fun age => ("maxAge", Json.ofInt64 age)).toList
      { noCache } { noCache, maxAge } :=
    .option (by decide) (fun absent => absent ▸ rfl) fun age isThere => by
      rw [set, read, isThere]
      rfl
  have sharedLeads : Leads shape set
      (sharedMaxAge.map fun age => ("sMaxAge", Json.ofInt64 age)).toList
      { noCache, maxAge } { noCache, maxAge, sharedMaxAge } :=
    .option (by decide) (fun absent => absent ▸ rfl) fun age isThere => by
      rw [set, read, isThere]
      rfl
  exact RecordShape.decode_object (fun _ inside => nomatch inside)
    ((noCacheLeads.append maxAgeLeads).append sharedLeads)

end CachePolicy

namespace Dictionary

theorem decodeDictionary_toJson (dictionary : Dictionary Json) :
    Json.decodeDictionary .ok dictionary.toJson = .ok dictionary := by
  have read := Json.decodeDictionary_object id (fun _ => rfl) dictionary
  simpa [toJson] using read

theorem decodeDictionary_textsToJson (dictionary : Dictionary String) :
    Json.decodeDictionary Json.decodeText dictionary.textsToJson = .ok dictionary :=
  Json.decodeDictionary_object .text (fun _ => rfl) dictionary

end Dictionary

namespace Snapshot

/-- The request of the snapshot does not have a body that is null. -/
def Restorable (snapshot : Snapshot) : Prop :=
  snapshot.requestBody ≠ some .null

theorem decode_toJson {snapshot : Snapshot} (restorable : snapshot.Restorable) :
    decode snapshot.toJson = .ok snapshot := by
  obtain ⟨method, url, parameters, requestBody, requestHeaders, responseHeaders, responseTime⟩ :=
    snapshot
  have first : Leads shape set
      [("method", .text method), ("url", .text url), ("queryParams", parameters.toJson)]
      { method := "", url := "" } { method, url, parameters } := by
    refine .cons (by decide) rfl (.cons (by decide) rfl ?_)
    exact .cons (by decide) (by rw [set, parameters.decodeDictionary_toJson]; rfl) .nil
  have body : Leads shape set (requestBody.map fun body => ("requestBody", body)).toList
      { method, url, parameters } { method, url, parameters, requestBody } := by
    refine .option (by decide) (fun absent => absent ▸ rfl) fun inner isThere => ?_
    have notNull : inner ≠ .null := fun null => restorable (isThere.trans (congrArg some null))
    rw [set, Json.decodeOption_of_ne_null notNull rfl, isThere]
    rfl
  have last : Leads shape set
      [("requestHeaders", requestHeaders.textsToJson),
        ("responseHeaders", responseHeaders.textsToJson),
        ("responseTimeMillis", Json.ofUInt64 responseTime)]
      { method, url, parameters, requestBody }
      { method, url, parameters, requestBody, requestHeaders, responseHeaders, responseTime } := by
    refine .cons (by decide) (by rw [set, requestHeaders.decodeDictionary_textsToJson]; rfl) ?_
    refine .cons (by decide) (by rw [set, responseHeaders.decodeDictionary_textsToJson]; rfl) ?_
    exact .cons (by decide) (by rw [set, Json.decodeUInt64_ofUInt64]; rfl) .nil
  exact RecordShape.decode_object (by simp [shape]) ((first.append body).append last)

-- a body that is null is written, but it reads as a missing one
example :
    (decode (toJson { method := "", url := "", requestBody := some .null })).map requestBody =
      .ok none := by
  rfl

end Snapshot

namespace Details

/-- The snapshot can be restored, if there is one. -/
def Restorable (details : Details) : Prop :=
  ∀ snapshot, details.snapshot = some snapshot → snapshot.Restorable

theorem decode_toJson {details : Details} (restorable : details.Restorable) :
    decode details.toJson = .ok details := by
  obtain ⟨status, success, ignoreErrors, cachePolicy, snapshot⟩ := details
  have first : Leads shape set
      [("status", Json.ofUInt16 status), ("success", .bool success),
        ("ignoreErrors", .bool ignoreErrors)]
      { status := 0, success := false } { status, success, ignoreErrors } := by
    refine .cons (by decide) (by rw [set, Json.decodeUInt16_ofUInt16]; rfl) ?_
    exact .cons (by decide) rfl (.cons (by decide) rfl .nil)
  have whole := cachePolicy.getD_nonempty?
  have policy : Leads shape set
      (cachePolicy.nonempty?.map fun policy => ("cacheControl", policy.toJson)).toList
      { status, success, ignoreErrors } { status, success, ignoreErrors, cachePolicy } := by
    refine .option (by decide) (fun absent => ?_) fun inner isThere => ?_
    -- the policy that is left out is the default, and the one that is written is the policy itself
    · rw [absent] at whole
      rw [← whole]
      rfl
    · rw [isThere] at whole
      rw [set, CachePolicy.decode_toJson, ← whole]
      rfl
  have last : Leads shape set
      (snapshot.map fun snapshot => ("debug", snapshot.toJson)).toList
      { status, success, ignoreErrors, cachePolicy }
      { status, success, ignoreErrors, cachePolicy, snapshot } := by
    refine .option (by decide) (fun absent => absent ▸ rfl) fun inner isThere => ?_
    have notNull : inner.toJson ≠ .null := by
      rw [Snapshot.toJson]
      exact nofun
    have read := Json.decodeOption_of_ne_null notNull
      (Snapshot.decode_toJson (restorable inner isThere))
    rw [set, read, isThere]
    rfl
  exact RecordShape.decode_object (by simp [shape]) ((first.append policy).append last)

end Details

namespace Record

/-- A record reads as the record with its octets read. -/
theorem decode_toJson {result : Record} (restorable : result.details.Restorable) :
    decode result.toJson = .ok result.decoded := by
  have leads : Leads shape set
      [("details", result.details.toJson), ("result", result.body.content)]
      { details := { status := 0, success := false } } result.decoded := by
    refine .cons (by decide) (by rw [set, Details.decode_toJson restorable]; rfl) ?_
    exact .cons (by decide) rfl .nil
  exact RecordShape.decode_object (by simp [shape]) leads

end Record

/-! ### What was read from the wire -/

theorem Snapshot.restorable_of_decode {value : Json} {snapshot : Snapshot}
    (decoded : Snapshot.decode value = .ok snapshot) : snapshot.Restorable := by
  refine RecordShape.decode_preserves Snapshot.Restorable (by simp [Restorable]) ?_ decoded
  intro before field part after _ sound done
  unfold Snapshot.set at done
  split at done
  case h_4 =>
    obtain ⟨body, read, same⟩ := bind_eq_ok_iff.mp done
    obtain rfl := Except.ok.inj same
    rcases Json.decodeOption_eq_ok read with rfl | ⟨inner, rfl, notNull, own⟩
    · simp [Restorable]
    · obtain rfl := Except.ok.inj own
      exact fun null => notNull (Option.some.inj null)
  case h_8 => exact Except.ok.inj done ▸ sound
  all_goals
    obtain ⟨other, -, same⟩ := bind_eq_ok_iff.mp done
    exact Except.ok.inj same ▸ sound

theorem Details.restorable_of_decode {value : Json} {details : Details}
    (decoded : Details.decode value = .ok details) : details.Restorable := by
  refine RecordShape.decode_preserves Details.Restorable (by simp [Restorable]) ?_ decoded
  intro before field part after _ sound done
  unfold Details.set at done
  split at done
  case h_5 =>
    obtain ⟨snapshot, read, same⟩ := bind_eq_ok_iff.mp done
    obtain rfl := Except.ok.inj same
    rintro own rfl
    rcases Json.decodeOption_eq_ok read with missing | ⟨inner, isThere, -, readInner⟩
    · cases missing
    · obtain rfl := Option.some.inj isThere
      exact Snapshot.restorable_of_decode readInner
  case h_6 => exact Except.ok.inj done ▸ sound
  all_goals
    obtain ⟨other, -, same⟩ := bind_eq_ok_iff.mp done
    exact Except.ok.inj same ▸ sound

/-- The details of a record that was read can be restored, and its body holds no octets. -/
theorem Record.restorable_of_decode {value : Json} {result : Record}
    (decoded : Record.decode value = .ok result) :
    result.details.Restorable ∧ result.decoded = result := by
  have restorable : result.details.Restorable ∧ Body.value result.body.content = result.body := by
    refine RecordShape.decode_preserves
      (fun result : Record => result.details.Restorable ∧ .value result.body.content = result.body)
      ⟨by simp [Details.Restorable], rfl⟩ ?_ decoded
    intro before field part after _ sound done
    unfold Record.set at done
    split at done
    · obtain ⟨details, read, same⟩ := bind_eq_ok_iff.mp done
      exact Except.ok.inj same ▸ ⟨Details.restorable_of_decode read, sound.2⟩
    · exact Except.ok.inj done ▸ ⟨sound.1, rfl⟩
    · exact Except.ok.inj done ▸ sound
  exact ⟨restorable.1, congrArg (Record.mk result.details) restorable.2⟩

namespace Resource

theorem decodeItems_eq_mapM (items : List Json) :
    decode.decodeItems items = items.mapM decode := by
  induction items with
  | nil => rfl
  | cons item rest inductionHypothesis =>
    rw [decode.decodeItems, List.mapM_cons, inductionHypothesis]
    cases decode item <;> rfl

theorem decode_array_eq_ok_iff {items : List Json} {entry : Resource} :
    decode (.array items) = .ok entry ↔
      ∃ entries, entry = .multiplexed entries ∧
        List.Forall₂ (fun item read => decode item = .ok read) items entries := by
  rw [decode]
  simp only [map_eq_ok_iff, decodeItems_eq_mapM, mapM_eq_ok_iff]

/-- Every end of an entry that was read is a record, and it was read from a part of the value. -/
theorem record_of_decode {sound : Json → Prop}
    (items : ∀ items, sound (.array items) → ∀ item ∈ items, sound item) {value : Json}
    {entry : Resource} (here : sound value) (decoded : decode value = .ok entry) :
    ∀ part ∈ entry.ends, ∃ source result, part = .record result ∧ sound source ∧
      Record.decode source = .ok result := by
  induction value using Json.induction generalizing entry with
  | array parts inductionHypothesis =>
    obtain ⟨entries, rfl, each⟩ := decode_array_eq_ok_iff.mp decoded
    refine forall_mem_ends_multiplexed_iff.mpr fun item inside => ?_
    obtain ⟨origin, isPart, read⟩ := exists_mem_of_forall₂ each.flip inside
    exact inductionHypothesis origin isPart (items parts here origin isPart) read
  | object members =>
    rw [decode] at decoded
    split at decoded
    · next result read =>
      obtain rfl := Except.ok.inj decoded
      intro part isEnd
      exact ⟨_, result, List.mem_singleton.mp isEnd, here, read⟩
    · cases decoded
  | _ => cases decoded

/-! ### Entries -/

theorem decode_toJson_of_restorable {resource : Resource}
    (answered : ∀ statement, .unanswered statement ∉ resource.ends)
    (restorable : ∀ result, .record result ∈ resource.ends → result.details.Restorable) :
    decode resource.toJson = .ok resource.decoded := by
  induction resource using Resource.induction with
  | done result =>
    have read := Record.decode_toJson (restorable result (List.mem_singleton_self _))
    rw [Record.toJson] at read
    rw [toJson, Record.toJson, decode, read]
    rfl
  | multiplexed items inductionHypothesis =>
    rw [toJson_multiplexed, decoded_multiplexed, decode_array_eq_ok_iff]
    refine ⟨_, rfl, List.forall₂_map_left_iff.mpr (List.forall₂_map_right_iff.mpr ?_)⟩
    refine List.forall₂_same.mpr fun item inside => inductionHypothesis item inside ?_ ?_
    · exact fun statement isEnd =>
        answered statement (mem_ends_multiplexed_iff.mpr ⟨item, inside, isEnd⟩)
    · exact fun result isEnd =>
        restorable result (mem_ends_multiplexed_iff.mpr ⟨item, inside, isEnd⟩)
  | pending statement => exact absurd (List.mem_singleton_self _) (answered statement)

theorem exists_decode_toJson_eq_error {resource : Resource} {statement : Statement}
    (pending : .unanswered statement ∈ resource.ends) :
    ∃ error, decode resource.toJson = .error error := by
  induction resource using Resource.induction with
  | done result => cases List.mem_singleton.mp pending
  | multiplexed items inductionHypothesis =>
    obtain ⟨item, inside, isEnd⟩ := mem_ends_multiplexed_iff.mp pending
    obtain ⟨error, failed⟩ := inductionHypothesis item inside isEnd
    rw [toJson_multiplexed]
    cases outcome : decode (.array (items.map toJson)) with
    | error error => exact ⟨error, rfl⟩
    | ok entry =>
      obtain ⟨entries, -, each⟩ := decode_array_eq_ok_iff.mp outcome
      obtain ⟨entry, -, read⟩ := exists_mem_of_forall₂ (List.forall₂_map_left_iff.mp each) inside
      cases failed.symm.trans read
  | pending statement => exact ⟨_, rfl⟩

theorem decode_toJson_of_decode {value : Json} {entry : Resource}
    (decoded : decode value = .ok entry) : decode entry.toJson = .ok entry := by
  have ends := record_of_decode (fun _ _ _ _ => trivial) (trivial : True) decoded
  have records (result : Record) (isEnd : .record result ∈ entry.ends) :
      result.details.Restorable ∧ result.decoded = result := by
    obtain ⟨source, own, same, -, read⟩ := ends _ isEnd
    obtain rfl := ResourceEnd.record.inj same
    exact Record.restorable_of_decode read
  have answered (statement : Statement) : .unanswered statement ∉ entry.ends := by
    intro isEnd
    obtain ⟨-, own, same, -⟩ := ends _ isEnd
    cases same
  have restored := decode_toJson_of_restorable answered fun result isEnd => (records result isEnd).1
  rwa [decoded_eq_self fun result isEnd => (records result isEnd).2] at restored

/-- An entry in which every statement was answered and every snapshot can be restored reads, once
written, as the entry with its octets read; an entry with a statement that was not answered does not
read at all; and an entry that was read from any value reads again as what it is. -/
theorem decode_toJson_meaning (resource : Resource) :
    ((∀ statement, .unanswered statement ∉ resource.ends) →
      (∀ result snapshot, .record result ∈ resource.ends →
        result.details.snapshot = some snapshot → snapshot.requestBody ≠ some .null) →
      decode resource.toJson = .ok resource.decoded) ∧
    (∀ statement, .unanswered statement ∈ resource.ends →
      ∃ error, decode resource.toJson = .error error) ∧
    ∀ value, decode value = .ok resource → decode resource.toJson = .ok resource := by
  refine ⟨fun answered restorable => ?_, ?_, ?_⟩
  · exact decode_toJson_of_restorable answered
      fun result isEnd snapshot taken => restorable result snapshot isEnd taken
  · exact fun statement pending => exists_decode_toJson_eq_error pending
  · exact fun value decoded => decode_toJson_of_decode decoded

/-- Two calls: one with blank octets, a cache policy and a snapshot, one in a list of its own. -/
def snapshotCalls : Resource :=
  .multiplexed
    [.done
        { details :=
            { status := 200
              success := true
              cachePolicy := { maxAge := some 60 }
              snapshot := some
                { method := "POST", url := "/heroes", requestBody := some (.bool true) } }
          body := .raw [0x20] },
      .multiplexed [.done { details := { status := 404, success := false } }]]

theorem decode_toJson_meaning_snapshotCalls :
    let unanswered := Resource.multiplexed [snapshotCalls, .pending { resource := "heroes" }]
    ((∀ statement, .unanswered statement ∉ snapshotCalls.ends) ∧
      (∀ result snapshot, .record result ∈ snapshotCalls.ends →
        result.details.snapshot = some snapshot → snapshot.requestBody ≠ some .null) ∧
      decode snapshotCalls.toJson = .ok snapshotCalls.decoded) ∧
    (.unanswered { resource := "heroes" } ∈ unanswered.ends ∧
      ∃ error, decode unanswered.toJson = .error error) ∧
    decode snapshotCalls.decoded.toJson = .ok snapshotCalls.decoded := by
  intro unanswered
  have answered : ∀ statement, .unanswered statement ∉ snapshotCalls.ends := by
    simp [snapshotCalls, ends, ends.itemEnds]
  have restorable : ∀ result snapshot, .record result ∈ snapshotCalls.ends →
      result.details.snapshot = some snapshot → snapshot.requestBody ≠ some .null := by
    intro result snapshot isEnd taken
    simp only [snapshotCalls, ends, ends.itemEnds, List.append_nil, List.singleton_append,
      List.mem_cons, List.not_mem_nil, or_false, ResourceEnd.record.injEq] at isEnd
    rcases isEnd with rfl | rfl
    · obtain rfl := Option.some.inj taken
      simp
    · cases taken
  have pending : .unanswered { resource := "heroes" } ∈ unanswered.ends := by
    simp [unanswered, ends, ends.itemEnds]
  have restored := (decode_toJson_meaning snapshotCalls).1 answered restorable
  exact ⟨⟨answered, restorable, restored⟩,
    ⟨pending, (decode_toJson_meaning unanswered).2.1 _ pending⟩,
    (decode_toJson_meaning snapshotCalls.decoded).2.2 snapshotCalls.toJson restored⟩

end Resource

end Gateway
