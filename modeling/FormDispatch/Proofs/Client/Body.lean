/-
# Bodies that are whole or refused

A body that comes in chunk by chunk is gathered to its end as long as no more has come than the
limit (`run_gather_within`), and up to the first chunk with which more has come
(`run_gather_excess`). Whatever comes of the gathering, the closing follows it (`run_closing`). The
two cases are all there are (`exists_first_excess`), so a request that is replied to has an answer
with all bytes of the body or fails, and no part of a body is taken for the whole
(`body_whole_or_refused`). In every case the body is closed, and nothing behind the first excess has
been read.

All of this holds of every library. What it is relied on for is said by hypotheses: the reply that
it gives (`RepliedTo`), and the statuses that pass its check (`AdmitsStatuses`).
-/

import Mathlib.Data.List.Induction
import FormDispatch.Client.Exchange

namespace FormDispatch
namespace Client

/-! ### What a limit allows -/

section Excess

variable {limit : Int} {chunks : List (List UInt8)}

/-- At some point more has come than the limit. -/
def Exceeds (limit : Int) (chunks : List (List UInt8)) : Prop :=
  ∃ read, read <+: chunks ∧ limit < (read.flatten.length : Int)

/-- More has come at some point exactly when all is more. -/
theorem exceeds_iff : Exceeds limit chunks ↔ limit < (chunks.flatten.length : Int) := by
  constructor
  · rintro ⟨read, ⟨rest, rfl⟩, h⟩
    rw [List.flatten_append, List.length_append]
    omega
  · exact fun h => ⟨chunks, List.prefix_rfl, h⟩

/-- Where more comes than the limit, it is first more with some chunk. -/
theorem exists_first_excess (hlimit : 0 ≤ limit) (h : Exceeds limit chunks) :
    ∃ read chunk rest, chunks = read ++ chunk :: rest ∧ ¬Exceeds limit read ∧
      Exceeds limit (read ++ [chunk]) := by
  induction chunks using List.reverseRecOn with
  | nil =>
    rw [exceeds_iff, List.flatten_nil, List.length_nil] at h
    omega
  | append_singleton read chunk ih =>
    by_cases hread : Exceeds limit read
    · obtain ⟨first, next, rest, rfl, hfirst, hnext⟩ := ih hread
      exact ⟨first, next, rest ++ [chunk], by simp, hfirst, hnext⟩
    · exact ⟨read, chunk, [], rfl, hread, h⟩

end Excess

/-! ### Reading -/

namespace Reading

variable {limit : Int} {brokenBy : Option PeerFault} {closed : Bool} {taken chunk : List UInt8}
variable {chunks read rest : List (List UInt8)} {body : Incoming}

/-- A chunk with which no more has come than the limit is taken. -/
theorem run_gather_cons (h : ((taken ++ chunk).length : Int) ≤ limit) :
    (gather limit taken (chunk :: rest)).run body =
      (gather limit (taken ++ chunk) rest).run { body with unread := rest } := by
  rw [gather, if_neg (Int.not_lt.mpr h)]
  rfl

/-- A chunk with which more has come than the limit is the last one. -/
theorem run_gather_tooLarge (h : limit < ((taken ++ chunk).length : Int)) :
    (gather limit taken (chunk :: rest)).run body =
      (.error .tooLarge, { body with unread := rest }) := by
  rw [gather, if_pos h]
  rfl

/-- What has been gathered of a body that has come to its end. -/
def atEnd (brokenBy : Option PeerFault) (taken : List UInt8) : Except BodyFlaw (List UInt8) :=
  match brokenBy with
  | some f => .error (.broken f)
  | none => .ok taken

/-- A body is gathered to its end while no more comes than the limit. -/
theorem run_gather_within (h : ((taken ++ chunks.flatten).length : Int) ≤ limit) :
    (gather limit taken chunks).run ⟨chunks, brokenBy, closed⟩ =
      (atEnd brokenBy (taken ++ chunks.flatten), ⟨[], brokenBy, closed⟩) := by
  induction chunks generalizing taken with
  | nil =>
    rw [List.flatten_nil, List.append_nil]
    cases brokenBy <;> rfl
  | cons chunk rest ih =>
    rw [List.flatten_cons, ← List.append_assoc] at h ⊢
    have hchunk : ((taken ++ chunk).length : Int) ≤ limit := by
      simp only [List.length_append] at h ⊢
      omega
    rw [run_gather_cons hchunk, ih h]

/-- A body is gathered no further than to the first chunk with which more has come than the
limit. -/
theorem run_gather_excess (within : ((taken ++ read.flatten).length : Int) ≤ limit)
    (beyond : limit < ((taken ++ read.flatten ++ chunk).length : Int)) :
    (gather limit taken (read ++ chunk :: rest)).run body =
      (.error .tooLarge, { body with unread := rest }) := by
  induction read generalizing taken body with
  | nil =>
    rw [List.flatten_nil, List.append_nil] at beyond
    exact run_gather_tooLarge beyond
  | cons first read ih =>
    rw [List.flatten_cons, ← List.append_assoc] at within beyond
    have hfirst : ((taken ++ first).length : Int) ≤ limit := by
      simp only [List.length_append] at within ⊢
      omega
    rw [List.cons_append, run_gather_cons hfirst, ih within beyond]

/-- Whatever comes of a piece of reading, the body is closed behind it, and nothing else is
changed. -/
theorem run_closing {α : Type} (reading : Reading α) (body : Incoming) :
    (tryFinally reading close).run body =
      ((reading.run body).1, { (reading.run body).2 with closed := true }) := by
  change (tryFinally (fun _ => reading.run body : Reading α) close).run body = _
  rcases reading.run body with ⟨flaw | content, left⟩ <;> rfl

/-- A body is gathered, and then it is closed. -/
theorem run_read (limit : Int) (body : Incoming) :
    (Reading.read limit).run body = (((gather limit [] body.unread).run body).1,
      { ((gather limit [] body.unread).run body).2 with closed := true }) :=
  run_closing (gather limit [] body.unread) body

/-- A body within the limit is read to its end. -/
theorem run_read_within {reply : Streamed} (h : ¬Exceeds limit reply.chunks) :
    (Reading.read limit).run reply.incoming =
      (atEnd reply.brokenBy reply.chunks.flatten, ⟨[], reply.brokenBy, true⟩) := by
  rw [exceeds_iff, Int.not_lt] at h
  rw [run_read, Streamed.incoming, run_gather_within h, List.nil_append]

/-- A body beyond the limit is read up to the first excess. -/
theorem run_read_excess {reply : Streamed} (split : reply.chunks = read ++ chunk :: rest)
    (within : ¬Exceeds limit read) (beyond : Exceeds limit (read ++ [chunk])) :
    (Reading.read limit).run reply.incoming =
      (.error .tooLarge, ⟨rest, reply.brokenBy, true⟩) := by
  rw [exceeds_iff, Int.not_lt] at within
  rw [exceeds_iff, List.flatten_append, List.flatten_singleton] at beyond
  rw [run_read, Streamed.incoming, split, run_gather_excess within beyond]

end Reading

/-! ### Receiving -/

section Receiving

variable {σ ω : Type} {lib : Library σ ω} {limit : Int} {s s' : σ} {r : WireRequest}
variable {reply : Streamed}

/-- A request is replied to: it could be built, and this comes back when it is sent. -/
def RepliedTo (lib : Library σ ω) (s : σ) (r : WireRequest) (reply : Streamed) (s' : σ) : Prop :=
  ∃ request, lib.build r = .ok request ∧ lib.exchange s request = (.ok reply, s')

/-- The numbers from 100 to 599 pass for the statuses that they are. -/
def AdmitsStatuses (lib : Library σ ω) : Prop :=
  ∀ n, 100 ≤ n → n ≤ 599 → ∃ status, lib.checked n = .ok status ∧ (status.code : Int) = n

/-- What a request that is replied to comes to is what comes of the reply. -/
theorem receive_fst (h : RepliedTo lib s r reply s') :
    (lib.receive limit s r).1 = lib.received limit r.url reply := by
  obtain ⟨request, hbuild, hexchange⟩ := h
  simp only [Library.receive, hbuild, hexchange]

/-- A request that is replied to is settled: an answer with the whole body, or one of two failures;
and what is left of the body. -/
structure Settled (limit : Int) (reply : Streamed) (reception : Reception) : Prop where
  whole : (∃ answer, reception.outcome = .ok answer) ↔
    reply.brokenBy = none ∧ (reply.chunks.flatten.length : Int) ≤ limit
  content : ∀ answer, reception.outcome = .ok answer → answer.content = reply.chunks.flatten
  head : ∀ answer, reception.outcome = .ok answer → (answer.status.code : Int) = reply.status ∧
    answer.headers = reply.headers ∧ answer.reason = reply.reason
  tooLarge : reception.outcome = .error (.problem (.bodyTooLarge limit)) ↔
    Exceeds limit reply.chunks
  broken : ∀ f, reception.outcome = .error (.problem (.transport f)) ↔
    ¬Exceeds limit reply.chunks ∧ ∃ fault, reply.brokenBy = some fault ∧ fault.message = f
  closed : ∃ left, reception.body = some left ∧ left.closed = true ∧
    (¬Exceeds limit reply.chunks → left.unread = []) ∧
    ∀ read chunk rest, reply.chunks = read ++ chunk :: rest → ¬Exceeds limit read →
      Exceeds limit (read ++ [chunk]) → left.unread = rest

/-- A body beyond the limit settles a request with the failure for its size. -/
theorem settled_excess (hlimit : 0 ≤ limit) (h : Exceeds limit reply.chunks) (url : String) :
    Settled limit reply (lib.received limit url reply) := by
  obtain ⟨read, chunk, rest, split, within, beyond⟩ := exists_first_excess hlimit h
  have hread := Reading.run_read_excess split within beyond
  rw [Library.received, hread]
  exact
    { whole := ⟨nofun, fun hwhole => absurd (exceeds_iff.mp h) (Int.not_lt.mpr hwhole.2)⟩
      content := nofun
      head := nofun
      tooLarge := iff_of_true rfl h
      broken := fun f => ⟨nofun, fun hbroken => absurd h hbroken.1⟩
      closed := by
        refine ⟨_, rfl, rfl, fun hwithin => absurd h hwithin,
          fun read' chunk' rest' split' within' beyond' => ?_⟩
        -- read once more at the other cut, the same body leaves the same chunks
        have hread' := Reading.run_read_excess split' within' beyond'
        rw [hread] at hread'
        exact congrArg (fun came => came.2.unread) hread' }

/-- What is left of a body within the limit: nothing, and it is closed. -/
theorem closed_within (h : ¬Exceeds limit reply.chunks) :
    ∃ left, some (⟨[], reply.brokenBy, true⟩ : Incoming) = some left ∧ left.closed = true ∧
      (¬Exceeds limit reply.chunks → left.unread = []) ∧
      ∀ read chunk rest, reply.chunks = read ++ chunk :: rest → ¬Exceeds limit read →
        Exceeds limit (read ++ [chunk]) → left.unread = rest := by
  refine ⟨_, rfl, rfl, fun _ => rfl, fun read chunk rest split _ ⟨first, hfirst, beyond⟩ => ?_⟩
  refine absurd ⟨first, hfirst.trans ⟨rest, ?_⟩, beyond⟩ h
  rw [split, List.append_assoc, List.singleton_append]

/-- A whole body within the limit settles a request with an answer. -/
theorem settled_within (hadmits : AdmitsStatuses lib)
    (hstatus : 100 ≤ reply.status ∧ reply.status ≤ 599) (h : ¬Exceeds limit reply.chunks)
    (hbroken : reply.brokenBy = none) (url : String) :
    Settled limit reply (lib.received limit url reply) := by
  obtain ⟨status, hchecked, hcode⟩ := hadmits reply.status hstatus.1 hstatus.2
  have hread : (Reading.read limit).run reply.incoming =
      (.ok reply.chunks.flatten, ⟨[], reply.brokenBy, true⟩) := by
    rw [Reading.run_read_within h, hbroken, Reading.atEnd]
  have hresponse : lib.response reply reply.chunks.flatten =
      .ok ⟨status, reply.headers, reply.chunks.flatten, reply.reason⟩ := by
    rw [Library.response, hchecked]
    rfl
  simp only [Library.received, hread, hresponse]
  exact
    { whole := iff_of_true ⟨_, rfl⟩
        ⟨hbroken, Int.not_lt.mp fun beyond => h (exceeds_iff.mpr beyond)⟩
      content := by
        intro answer hanswer
        cases hanswer
        rfl
      head := by
        intro answer hanswer
        cases hanswer
        exact ⟨hcode, rfl, rfl⟩
      tooLarge := ⟨nofun, fun hexceeds => absurd hexceeds h⟩
      broken := fun f => ⟨nofun, fun ⟨_, fault, hfault, _⟩ => by simp [hbroken] at hfault⟩
      closed := closed_within h }

/-- A body within the limit that breaks off settles a request with the failure of the way to the
peer. -/
theorem settled_broken {fault : PeerFault} (h : ¬Exceeds limit reply.chunks)
    (hbroken : reply.brokenBy = some fault) (url : String) :
    Settled limit reply (lib.received limit url reply) := by
  have hread : (Reading.read limit).run reply.incoming =
      (.error (.broken fault), ⟨[], reply.brokenBy, true⟩) := by
    rw [Reading.run_read_within h, hbroken, Reading.atEnd]
  rw [Library.received, hread]
  exact
    { whole := ⟨nofun, fun hwhole => by simp [hbroken] at hwhole⟩
      content := nofun
      head := nofun
      tooLarge := ⟨nofun, fun hexceeds => absurd hexceeds h⟩
      broken := by
        intro f
        constructor
        · intro hf
          cases hf
          exact ⟨h, fault, hbroken, rfl⟩
        · rintro ⟨-, other, hother, rfl⟩
          rw [hbroken] at hother
          cases hother
          rfl
      closed := closed_within h }

end Receiving

/-- A request without headers and a body. -/
def plainRequest : WireRequest :=
  .plain "GET" "https://sheets.test/a" []

/-- A reply of three bytes in chunks, one of them empty. -/
def smallReply (status : Int) : Streamed :=
  { status, headers := [], reason := "", chunks := [[97, 98], [], [99]] }

/-- A library that gives every request the same reply, and takes for a status what is one. -/
def alwaysReplying (reply : Streamed) : Library Unit WireRequest where
  build := .ok
  exchange _ _ := (.ok reply, ())
  checked n := (Status.ofInt n).mapError fun _ => .statusOutside n

theorem repliedTo_always (reply : Streamed) (r : WireRequest) :
    RepliedTo (alwaysReplying reply) () r reply () :=
  ⟨r, rfl, rfl⟩

theorem admitsStatuses_always (reply : Streamed) : AdmitsStatuses (alwaysReplying reply) := by
  intro n hleast hgreatest
  have hlow : ¬n < 100 := Int.not_lt.mpr hleast
  have hhigh : ¬599 < n := Int.not_lt.mpr hgreatest
  refine ⟨⟨n.toNat, by omega, by omega⟩, ?_, Int.toNat_of_nonneg (by omega)⟩
  simp only [alwaysReplying, Status.ofInt, dif_neg hlow, dif_neg hhigh]
  rfl

variable {σ ω : Type} {lib : Library σ ω} {limit : Int} {s s' : σ} {r : WireRequest}
variable {reply : Streamed}

/-- **A body is whole or refused.** A request that is replied to with a status from 100 to 599 has
an answer exactly when the body has come to its end within the limit, and then with all of it; it
fails for the size of the body exactly when more has come at some point than the limit, and for the
way to the peer in the case that is left. The body is closed in all cases, and no chunk is read
behind the first one with which more has come than the limit. -/
theorem body_whole_or_refused (hadmits : AdmitsStatuses lib) (hlimit : 0 < limit)
    (h : RepliedTo lib s r reply s') (hstatus : 100 ≤ reply.status ∧ reply.status ≤ 599) :
    Settled limit reply (lib.receive limit s r).1 := by
  rw [receive_fst h]
  by_cases hexceeds : Exceeds limit reply.chunks
  · exact settled_excess (Int.le_of_lt hlimit) hexceeds r.url
  · cases hbroken : reply.brokenBy with
    | none => exact settled_within hadmits hstatus hexceeds hbroken r.url
    | some fault => exact settled_broken hexceeds hbroken r.url

/-- A body that is just as large as the limit is whole, also with an empty chunk in it. -/
theorem body_whole_or_refused_full :
    RepliedTo (alwaysReplying (smallReply 200)) () plainRequest (smallReply 200) () ∧
      AdmitsStatuses (alwaysReplying (smallReply 200)) ∧
      ∃ answer, ((alwaysReplying (smallReply 200)).receive 3 () plainRequest).1.outcome =
        .ok answer := by
  have hreplied := repliedTo_always (smallReply 200) plainRequest
  have hadmits := admitsStatuses_always (smallReply 200)
  have hsettled : Settled 3 (smallReply 200) _ :=
    body_whole_or_refused hadmits (by decide) hreplied (by decide)
  exact ⟨hreplied, hadmits, hsettled.whole.mpr (by decide)⟩

/-- A whole body within the limit makes no answer with a status beyond 599. -/
theorem whole_body_without_status :
    RepliedTo (alwaysReplying (smallReply 999)) () plainRequest (smallReply 999) () ∧
      (smallReply 999).brokenBy = none ∧ (smallReply 999).chunks.flatten.length ≤ 3 ∧
      ((alwaysReplying (smallReply 999)).receive 3 () plainRequest).1.outcome =
        .error (.defect (.statusOutside 999)) := by
  refine ⟨repliedTo_always _ _, rfl, by decide, ?_⟩
  rw [receive_fst (repliedTo_always _ _)]
  rfl

end Client
end FormDispatch
