import SolakonMonitor.HttpServer

/-!
What the server answers when a request comes in several segments.
One read takes what has arrived, the first segment at least, and the answer is made from
that. Cut before its second space a request has no path, so it gets the answer of an
unknown path.
-/
namespace SolakonMonitor.RequestSegments

open BigEndian DecimalText TextLines HttpServer

/-- A client's request in the segments it comes in, and how many of them are there when
the server reads. -/
structure Client where
  segments : List Bytes
  arrived : ℕ
  nonempty : ∀ segment ∈ segments, segment ≠ []
  started : segments ≠ []
  waits : 0 < arrived

namespace Client

def request (client : Client) : Bytes := client.segments.flatten

/-- What one read into a buffer of this size delivers. -/
def read (client : Client) (size : ℕ) : Bytes :=
  ((client.segments.take client.arrived).flatten).take size

end Client

/-- The answer to a client: one read of up to 4095 bytes. -/
def answerClient (server : Server) (now : ℤ) (client : Client) : Option Bytes :=
  handleClient server now (client.read 4095)

/-- The answer when the whole request is in one segment. -/
def answerWhole (server : Server) (now : ℤ) (client : Client) : Option Bytes :=
  handleClient server now client.request

theorem read_spec (client : Client) (hlen : client.request.length ≤ 4095) :
    client.read 4095 ≠ [] ∧ client.read 4095 <+: client.request := by
  have hdelivered : (client.segments.take client.arrived).flatten <+: client.request := by
    refine ⟨(client.segments.drop client.arrived).flatten, ?_⟩
    rw [← List.flatten_append, List.take_append_drop, Client.request]
  rw [Client.read, List.take_of_length_le (hdelivered.length_le.trans hlen)]
  refine ⟨?_, hdelivered⟩
  obtain ⟨first, rest, hcons⟩ := List.exists_cons_of_ne_nil client.started
  have hfirst : first ≠ [] := client.nonempty first (hcons ▸ List.mem_cons_self)
  obtain ⟨arrived, harrived⟩ := Nat.exists_eq_succ_of_ne_zero (Nat.ne_of_gt client.waits)
  rw [hcons, harrived, List.take_succ_cons, List.flatten_cons]
  exact List.append_ne_nil_of_left_ne_nil hfirst _

theorem buildResponse_injective {body body' : Bytes}
    (h : buildResponse body = buildResponse body') : body = body' := by
  have hbody := responseBody_buildResponse body
  rw [h, responseBody_buildResponse] at hbody
  exact (Option.some.inj hbody).symm

/-- Only the known paths have a body of their own. -/
theorem route_body_eq_notFound_iff (server : Server) (now : ℤ) (path : Bytes) :
    (route server now path).2 = notFoundBody ↔ ¬ Known path := by
  rw [route, Known]
  by_cases hdata : path = utf8 "/data" ∨ path = utf8 "/"
  · rw [if_pos hdata]
    refine iff_of_false ?_ (fun h => h (hdata.elim Or.inl (fun h' => Or.inr (Or.inl h'))))
    intro hbody
    have hhead : some (123 : UInt8) = some 78 := congrArg List.head? hbody
    revert hhead
    decide
  · rw [if_neg hdata]
    by_cases hhealth : path = utf8 "/health"
    · rw [if_pos hhealth]
      refine iff_of_false (by decide) (fun h => h (Or.inr (Or.inr hhealth)))
    · rw [if_neg hhealth]
      exact iff_of_true rfl (fun h => h.elim (fun h' => hdata (Or.inl h'))
        (fun h' => h'.elim (fun h'' => hdata (Or.inr h'')) hhealth))

theorem target_append {first path : Bytes} (h : Target first path) (rest : Bytes) :
    Target (first ++ rest) path := by
  obtain ⟨method, tail, rfl, hmethod, hpath⟩ := h
  exact ⟨method, tail ++ rest, by simp, hmethod, hpath⟩

theorem known_extractPath_iff (request : Bytes) :
    Known (extractPath request) ↔ ∃ path, Target request path ∧ Known path := by
  by_cases htarget : ∃ path, Target request path
  · obtain ⟨path, hpath⟩ := htarget
    rw [extractPath_of_target hpath]
    constructor
    · intro hknown
      exact ⟨path, hpath, hknown⟩
    · intro h
      obtain ⟨path', hpath', hknown⟩ := h
      rw [← extractPath_of_target hpath, extractPath_of_target hpath']
      exact hknown
  · rw [extractPath_eq_nil htarget]
    refine iff_of_false (by unfold Known; decide) (fun h => ?_)
    obtain ⟨path, hpath, _⟩ := h
    exact htarget ⟨path, hpath⟩

/-- The answer is that of the whole request exactly when the read got as far as the
second space, or the request asks for no known path. -/
theorem answerClient_eq_iff (server : Server) (now : ℤ) (client : Client)
    (hlen : client.request.length ≤ 4095) :
    answerClient server now client = answerWhole server now client ↔
      (∃ path, Target (client.read 4095) path) ∨
        ¬ ∃ path, Target client.request path ∧ Known path := by
  obtain ⟨hread, rest, hrest⟩ := read_spec client hlen
  have hrequest : client.request ≠ [] := by
    rw [← hrest]
    exact List.append_ne_nil_of_left_ne_nil hread rest
  have hshort : (client.read 4095).length ≤ 4095 := by
    rw [Client.read]
    exact List.length_take_le _ _
  rw [answerClient, answerWhole, handleClient, handleClient, if_neg hread, if_neg hrequest,
    List.take_of_length_le hshort, List.take_of_length_le hlen, Option.some.injEq]
  by_cases htarget : ∃ path, Target (client.read 4095) path
  · obtain ⟨path, hpath⟩ := htarget
    have hwhole := target_append hpath rest
    rw [hrest] at hwhole
    rw [extractPath_of_target hpath, extractPath_of_target hwhole]
    exact iff_of_true rfl (Or.inl ⟨path, hpath⟩)
  · have hnil : ¬ Known (extractPath (client.read 4095)) := by
      rw [known_extractPath_iff]
      intro h
      obtain ⟨path, hpath, _⟩ := h
      exact htarget ⟨path, hpath⟩
    have hbody := (route_body_eq_notFound_iff server now _).mpr hnil
    rw [hbody, ← known_extractPath_iff, ← route_body_eq_notFound_iff server now]
    constructor
    · intro heq
      exact Or.inr (buildResponse_injective heq).symm
    · intro h
      rcases h with h | h
      · exact absurd h htarget
      · rw [h]

def cutHealth : Client where
  segments := [utf8 "GET ", utf8 "/health HTTP/1.1\r\n\r\n"]
  arrived := 1
  nonempty := by decide
  started := by decide
  waits := by decide

theorem answerClient_eq_iff_cut :
    answerClient {} 0 cutHealth = answerWhole {} 0 cutHealth ↔
      (∃ path, Target (cutHealth.read 4095) path) ∨
        ¬ ∃ path, Target cutHealth.request path ∧ Known path :=
  answerClient_eq_iff {} 0 cutHealth (by decide)

/-- Cut there, the health check is answered as an unknown path. -/
theorem answerClient_cut :
    answerClient {} 0 cutHealth = some (buildResponse notFoundBody) ∧
      answerWhole {} 0 cutHealth = some (buildResponse healthBody) ∧
      answerClient {} 0 cutHealth ≠ answerWhole {} 0 cutHealth := by
  have hcut : answerClient {} 0 cutHealth = some (buildResponse notFoundBody) := by
    decide +kernel
  have hwhole : answerWhole {} 0 cutHealth = some (buildResponse healthBody) := by
    decide +kernel
  refine ⟨hcut, hwhole, ?_⟩
  rw [hcut, hwhole]
  intro heq
  have hbody := buildResponse_injective (Option.some.inj heq)
  revert hbody
  decide

end SolakonMonitor.RequestSegments
