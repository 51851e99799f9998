/-
This file proves that a command works on well-formed results that were answered, whatever its input
is. A request is read from text, so no object in it names a member twice; decoding a record or an
entry copies parts of the request, and the entries of a request to filter come from nowhere else.
-/

import Gateway.Command.Request
import Gateway.Proofs.Filter.Reach
import Gateway.Proofs.Resource.Wire

namespace Gateway

/-! ### Results -/

/-- Setting a part of a record leaves its body or sets it to that part. -/
theorem Record.wellFormed_set {before after : Record} {field : String} {part : Json}
    (wellFormed : part.WellFormed) (sound : before.body.WellFormed)
    (done : before.set field part = .ok after) : after.body.WellFormed := by
  unfold Record.set at done
  split at done
  · obtain ⟨details, -, same⟩ := bind_eq_ok_iff.mp done
    exact Except.ok.inj same ▸ sound
  · exact Except.ok.inj done ▸ wellFormed
  · exact Except.ok.inj done ▸ sound

theorem Record.wellFormed_of_decode {value : Json} {result : Record}
    (wellFormed : value.WellFormed) (decoded : Record.decode value = .ok result) :
    result.body.WellFormed :=
  RecordShape.decode_preserves (fun record => record.body.WellFormed) trivial
    (fun _ _ _ _ gives => Record.wellFormed_set (gives.wellFormed wellFormed)) decoded

theorem Resource.wellFormed_of_decode {value : Json} {entry : Resource}
    (wellFormed : value.WellFormed) (decoded : Resource.decode value = .ok entry) :
    entry.WellFormed := by
  intro result isEnd
  obtain ⟨source, own, same, sound, read⟩ :=
    Resource.record_of_decode (fun items => (Json.itemsWellFormed_iff items).mp) wellFormed decoded
      _ isEnd
  obtain rfl := ResourceEnd.record.inj same
  exact Record.wellFormed_of_decode sound read

theorem Resource.answered_of_decode {value : Json} {entry : Resource}
    (decoded : Resource.decode value = .ok entry) : entry.Answered := by
  intro statement isEnd
  obtain ⟨-, result, same, -⟩ :=
    Resource.record_of_decode (fun _ _ _ _ => trivial) (trivial : True) decoded _ isEnd
  cases same

/-- An entry of results that were read was read from a member of an object. -/
theorem Resources.exists_member_of_decode {value : Json} {resources : Resources}
    (decoded : Resources.decode value = .ok resources) {id : ResourceId} {entry : Resource}
    (found : resources.find? id = some entry) :
    ∃ members, value = .object members ∧ ∃ member ∈ members,
      Resource.decode member.2 = .ok entry := by
  obtain ⟨entries, rfl, read⟩ := map_eq_ok_iff.mp decoded
  cases value with
  | object members =>
    obtain ⟨member, isMember, made⟩ :=
      exists_mem_of_mapM read (Dictionary.mem_of_find?_ofList found)
    obtain ⟨resource, same, readEntry⟩ := map_eq_ok_iff.mp made
    obtain rfl : entry = resource := congrArg Prod.snd same
    exact ⟨members, rfl, member, isMember, readEntry⟩
  | _ => cases read

theorem Resources.wellFormed_of_decode {value : Json} {resources : Resources}
    (wellFormed : value.WellFormed) (decoded : Resources.decode value = .ok resources) :
    resources.WellFormed := by
  intro id entry found
  obtain ⟨members, rfl, member, isMember, read⟩ :=
    Resources.exists_member_of_decode decoded found
  have wellFormedMembers := (Json.membersWellFormed_iff members).mp wellFormed.2
  exact Resource.wellFormed_of_decode (wellFormedMembers member isMember) read

/-! ### Requests -/

/-- The results in a request to filter are those of a part of it, or there are none. -/
theorem FilterRequest.resources_of_decode {value : Json} {request : FilterRequest}
    (decoded : FilterRequest.decode value = .ok request) :
    request.resources = Dictionary.empty ∨
      ∃ part, FilterRequest.shape.Gives value "resources" part ∧
        Resources.decode part = .ok request.resources := by
  refine RecordShape.decode_preserves (fun request => request.resources = Dictionary.empty ∨
    ∃ part, FilterRequest.shape.Gives value "resources" part ∧
      Resources.decode part = .ok request.resources) (Or.inl rfl) ?_ decoded
  intro before field part after gives origin done
  unfold FilterRequest.set at done
  split at done
  · obtain ⟨query, -, same⟩ := bind_eq_ok_iff.mp done
    exact Except.ok.inj same ▸ origin
  · obtain ⟨resources, read, same⟩ := bind_eq_ok_iff.mp done
    exact Except.ok.inj same ▸ Or.inr ⟨part, gives, read⟩
  · exact Except.ok.inj done ▸ origin

theorem FilterRequest.wellFormed_of_decode {value : Json} {request : FilterRequest}
    (wellFormed : value.WellFormed) (decoded : FilterRequest.decode value = .ok request) :
    request.resources.WellFormed := by
  rcases FilterRequest.resources_of_decode decoded with empty | ⟨part, gives, read⟩
  · exact empty ▸ Resources.wellFormed_empty
  · exact Resources.wellFormed_of_decode (gives.wellFormed wellFormed) read

/-- No entry in a request to filter holds a statement that was not answered, at any depth. -/
theorem FilterRequest.answered_of_decode {value : Json} {request : FilterRequest}
    (decoded : FilterRequest.decode value = .ok request) {id : ResourceId} {entry : Resource}
    (found : request.resources.find? id = some entry) : entry.Answered := by
  rcases FilterRequest.resources_of_decode decoded with empty | ⟨part, -, read⟩
  · rw [empty] at found
    cases found
  · obtain ⟨-, -, member, -, readEntry⟩ := Resources.exists_member_of_decode read found
    exact Resource.answered_of_decode readEntry

theorem RequestLine.wellFormed_of_read [LibraryReports] {input : List UInt8} {request : Json}
    (received : RequestLine.read input = .ok request) : request.WellFormed := by
  rw [RequestLine.read] at received
  split at received
  · cases received
  · split at received
    · cases received
    · split at received
      · cases received
      · next found => exact Except.ok.inj received ▸ Json.wellFormed_of_ofText? found

/-- The results in a request to filter are well-formed, whatever the input is. -/
theorem FilterRequest.wellFormed_of_input [LibraryReports] {input : List UInt8} {value : Json}
    {request : FilterRequest} (received : RequestLine.read input = .ok value)
    (decoded : FilterRequest.decode value = .ok request) : request.resources.WellFormed :=
  FilterRequest.wellFormed_of_decode (RequestLine.wellFormed_of_read received) decoded

end Gateway
