import MyVault.Auth.Request
import Mathlib.Order.MinMax
import Mathlib.Data.List.Infix
import Mathlib.Data.List.Induction

/-!
# Reading a request

A connection to the loopback listener is what reading from it gives: pieces of bytes, each from
a time on, and then its end, or nothing.  The loop of `parse_stream_callback` reads until it has
an empty line, within 16 KiB and the deadline.

However the bytes are cut, it ends up with the bytes to the first empty line and those that the
last piece brought behind it (`readRequest_of_head`).  A connection that neither completes its
request nor ends keeps it reading until the deadline (`readRequest_settles`).
-/

namespace MyVault.Auth

/-- `MAX_REQUEST_BYTES`. -/
def maxRequestBytes : ℕ := 16 * 1024

/-- What one `read` gives, from `time` on. -/
structure Chunk where
  time : ℕ
  bytes : List UInt8
  nonempty : bytes ≠ []
  fits : bytes.length ≤ 1024

/-- What comes after the last byte of a connection: nothing, its end, or an error of `read`. -/
inductive Ending where
  | stalls
  | closes (time : ℕ)
  | breaks (time : ℕ)

/-- A connection, with the time from which `accept` finds it. -/
structure Connection where
  accepted : ℕ
  chunks : List Chunk
  ending : Ending

/-- What ends the head of a request: `b"\r\n\r\n"`. -/
def emptyLine : List UInt8 := [13, 10, 13, 10]

/-- `windows(4).any(|window| window == b"\r\n\r\n")`. -/
def hasEmptyLine (bytes : List UInt8) : Bool := bytes.tails.any (emptyLine.isPrefixOf ·)

/-- The checks in front of a `read`; how many more bytes are wanted. -/
def readLimit (deadline received now : ℕ) : Except AuthError ℕ :=
  if deadline ≤ now then .error .timedOut
  else if maxRequestBytes - received = 0 then
    .error (.invalidRequest "request headers exceeded 16 KiB")
  else .ok (maxRequestBytes - received)

/-- A `read` that finds no bytes, and when it returns: the read timeout is what remains until
the deadline. -/
def readNothing (deadline now : ℕ) : Ending → AuthError × ℕ
  | .stalls => (.timedOut, deadline)
  | .closes time =>
      if deadline ≤ time then (.timedOut, deadline)
      else (.invalidRequest "request headers were incomplete", max now time)
  | .breaks time => if deadline ≤ time then (.timedOut, deadline) else (.io, max now time)

/-- The loop of `parse_stream_callback`: the bytes read when there is an empty line among them,
and when this is. -/
def readRequest (deadline : ℕ) (ending : Ending) :
    List Chunk → List UInt8 → ℕ → Except AuthError (List UInt8) × ℕ
  | [], received, now =>
      match readLimit deadline received.length now with
      | .error error => (.error error, now)
      | .ok _ => (.error (readNothing deadline now ending).1, (readNothing deadline now ending).2)
  | chunk :: chunks, received, now =>
      match readLimit deadline received.length now with
      | .error error => (.error error, now)
      | .ok available =>
          if deadline ≤ chunk.time then (.error .timedOut, deadline)
          else if hasEmptyLine (received ++ chunk.bytes.take available) then
            (.ok (received ++ chunk.bytes.take available), max now chunk.time)
          else
            readRequest deadline ending chunks (received ++ chunk.bytes.take available)
              (max now chunk.time)

/-! ### What a connection brings -/

/-- The bytes of some pieces. -/
def bytesOf (chunks : List Chunk) : List UInt8 := chunks.flatMap Chunk.bytes

/-- Bytes that end with their first empty line. -/
def IsHead (head : List UInt8) : Prop :=
  hasEmptyLine head = true ∧ hasEmptyLine head.dropLast = false

/-- Before the deadline, the connection has brought the bytes up to its first empty line; `rest`
came behind them in the same piece. -/
def Connection.Delivers (deadline : ℕ) (connection : Connection) (head rest : List UInt8) : Prop :=
  connection.accepted < deadline ∧ ∃ front last behind,
    connection.chunks = front ++ last :: behind ∧ (∀ chunk ∈ front, chunk.time < deadline) ∧
    last.time < deadline ∧ hasEmptyLine (bytesOf front) = false ∧ IsHead head ∧
    bytesOf front ++ last.bytes = head ++ rest

/-- The connection ends before the deadline. -/
def Ending.Before (deadline : ℕ) : Ending → Prop
  | .stalls => False
  | .closes time => time < deadline
  | .breaks time => time < deadline

/-- Before the deadline the rest of the connection completes the request, exceeds its size or
ends. -/
def settlesFrom (deadline : ℕ) (ending : Ending) : List Chunk → List UInt8 → Prop
  | [], _ => ending.Before deadline
  | chunk :: chunks, received =>
      chunk.time < deadline ∧ (hasEmptyLine (received ++ chunk.bytes) = true ∨
        maxRequestBytes ≤ (received ++ chunk.bytes).length ∨
        settlesFrom deadline ending chunks (received ++ chunk.bytes))

/-- The connection keeps nobody waiting until the deadline. -/
def Connection.Settles (deadline : ℕ) (connection : Connection) : Prop :=
  connection.accepted < deadline ∧
    settlesFrom deadline connection.ending connection.chunks []

variable {bytes head rest received : List UInt8} {deadline now : ℕ} {ending : Ending}
  {front behind chunks : List Chunk} {last : Chunk}

theorem hasEmptyLine_iff : hasEmptyLine bytes = true ↔ emptyLine <:+: bytes := by
  rw [hasEmptyLine, List.any_eq_true, List.infix_iff_prefix_suffix]
  constructor
  · rintro ⟨t, ht, hmem⟩
    exact ⟨t, List.isPrefixOf_iff_prefix.mp hmem, (List.mem_tails _ _).mp ht⟩
  · rintro ⟨t, hstart, hsuffix⟩
    exact ⟨t, (List.mem_tails _ _).mpr hsuffix, List.isPrefixOf_iff_prefix.mpr hstart⟩

theorem hasEmptyLine_mono (h : received <+: bytes) (hline : hasEmptyLine bytes = false) :
    hasEmptyLine received = false := by
  by_contra htrue
  have hreceived := hasEmptyLine_iff.mp (Bool.not_eq_false _ ▸ htrue)
  rw [hasEmptyLine_iff.mpr (hreceived.trans h.isInfix)] at hline
  cases hline

/-- Bytes with an empty line start with a head. -/
theorem exists_head (h : hasEmptyLine bytes = true) : ∃ head rest, bytes = head ++ rest ∧
    IsHead head := by
  induction bytes using List.reverseRecOn with
  | nil => exact absurd h (by decide)
  | append_singleton bytes b ih =>
      by_cases hbefore : hasEmptyLine bytes = true
      · obtain ⟨head, rest, rfl, hhead⟩ := ih hbefore
        exact ⟨head, rest ++ [b], List.append_assoc _ _ _, hhead⟩
      · refine ⟨bytes ++ [b], [], (List.append_nil _).symm, h, ?_⟩
        rw [List.dropLast_concat]
        exact Bool.not_eq_true _ ▸ hbefore

theorem IsHead.ends (h : IsHead head) : ∃ front, head = front ++ [10] := by
  obtain ⟨front, behind, rfl⟩ := hasEmptyLine_iff.mp h.1
  rcases List.eq_nil_or_concat behind with rfl | ⟨behind, b, rfl⟩
  · exact ⟨front ++ [13, 10, 13], by simp [emptyLine]⟩
  · exfalso
    have hline : hasEmptyLine (front ++ emptyLine ++ behind) = true :=
      hasEmptyLine_iff.mpr ⟨front, behind, rfl⟩
    have hnone := h.2
    rw [List.concat_eq_append, ← List.append_assoc, List.dropLast_concat, hline] at hnone
    cases hnone

/-- What has no empty line is shorter than the head. -/
theorem IsHead.length_lt (h : IsHead head) (hbytes : received <+: head ++ rest)
    (hline : hasEmptyLine received = false) : received.length < head.length := by
  by_contra hlong
  have hinit : head <+: received :=
    List.prefix_of_prefix_length_le (List.prefix_append _ _) hbytes (Nat.le_of_not_lt hlong)
  have hnone := hasEmptyLine_mono hinit hline
  rw [h.1] at hnone
  cases hnone

/-- What is shorter than the head has no empty line. -/
theorem IsHead.hasEmptyLine_of_length_lt (h : IsHead head) (hbytes : received <+: head ++ rest)
    (hlength : received.length < head.length) : hasEmptyLine received = false := by
  refine hasEmptyLine_mono ?_ h.2
  have hhead : received <+: head :=
    List.prefix_of_prefix_length_le hbytes (List.prefix_append _ _) hlength.le
  rw [List.prefix_iff_eq_take] at hhead ⊢
  rw [List.dropLast_eq_take, List.take_take, Nat.min_eq_left (by omega), ← hhead]

theorem readLimit_of_lt (h : now < deadline) {n : ℕ} (hn : n < maxRequestBytes) :
    readLimit deadline n now = .ok (maxRequestBytes - n) := by
  rw [readLimit, if_neg (by omega), if_neg (by omega)]

theorem readLimit_full (h : now < deadline) : readLimit deadline maxRequestBytes now =
    .error (.invalidRequest "request headers exceeded 16 KiB") := by
  rw [readLimit, if_neg (by omega), if_pos (Nat.sub_self _)]

/-- After the deadline nothing is read any more. -/
theorem readRequest_late (h : deadline ≤ now) :
    readRequest deadline ending chunks received now = (.error .timedOut, now) := by
  cases chunks <;> rw [readRequest, readLimit, if_pos h]

theorem readRequest_full (h : now < deadline) (hfull : received.length = maxRequestBytes) :
    readRequest deadline ending chunks received now =
      (.error (.invalidRequest "request headers exceeded 16 KiB"), now) := by
  cases chunks <;> rw [readRequest, hfull, readLimit_full h]

/-- What a `read` adds, within the bound. -/
theorem append_take (h : received.length ≤ maxRequestBytes) :
    received ++ bytes.take (maxRequestBytes - received.length) =
      (received ++ bytes).take maxRequestBytes := by
  rw [List.take_append, List.take_of_length_le h]

/-- One `read` that brings bytes in time. -/
theorem readRequest_cons {chunk : Chunk} (h : now < deadline) (hchunk : chunk.time < deadline)
    (hroom : received.length < maxRequestBytes) :
    readRequest deadline ending (chunk :: chunks) received now =
      if hasEmptyLine ((received ++ chunk.bytes).take maxRequestBytes) then
        (.ok ((received ++ chunk.bytes).take maxRequestBytes), max now chunk.time)
      else
        readRequest deadline ending chunks ((received ++ chunk.bytes).take maxRequestBytes)
          (max now chunk.time) := by
  rw [readRequest, readLimit_of_lt h hroom]
  dsimp only
  rw [if_neg (by omega), append_take hroom.le]

/-- The connection that brings its head in time: the bytes read are the head and what came with
its last piece, unless the head is too long. -/
theorem readRequest_of_head (hhead : IsHead head) (hnow : now < deadline)
    (hfront : ∀ chunk ∈ front, chunk.time < deadline) (hlast : last.time < deadline)
    (hroom : received.length ≤ maxRequestBytes)
    (hline : hasEmptyLine (received ++ bytesOf front) = false)
    (hbytes : received ++ bytesOf front ++ last.bytes = head ++ rest) :
    ∃ time, time < deadline ∧
      readRequest deadline ending (front ++ last :: behind) received now =
        (if maxRequestBytes < head.length then
          .error (.invalidRequest "request headers exceeded 16 KiB")
        else .ok (head ++ rest.take (maxRequestBytes - head.length)), time) := by
  have hlength : received.length < head.length := by
    have hshort := hhead.length_lt (hbytes ▸ List.prefix_append _ _) hline
    rw [List.length_append] at hshort
    omega
  rcases Nat.lt_or_eq_of_le hroom with hroom | hfull
  · induction front generalizing received now with
    | nil =>
        have hread : received ++ last.bytes = head ++ rest := by
          rw [← hbytes]
          simp [bytesOf]
        rw [List.nil_append, readRequest_cons hnow hlast hroom, hread]
        refine ⟨max now last.time, by omega, ?_⟩
        by_cases hlong : maxRequestBytes < head.length
        · have htake : ((head ++ rest).take maxRequestBytes).length = maxRequestBytes := by
            rw [List.length_take, List.length_append]
            omega
          have hnone : hasEmptyLine ((head ++ rest).take maxRequestBytes) = false :=
            hhead.hasEmptyLine_of_length_lt (List.take_prefix _ _) (by omega)
          rw [hnone, if_neg (by simp), if_pos hlong, readRequest_full (by omega) htake]
        · have htake : (head ++ rest).take maxRequestBytes =
              head ++ rest.take (maxRequestBytes - head.length) := by
            rw [List.take_append, List.take_of_length_le (by omega)]
          have hsome : hasEmptyLine ((head ++ rest).take maxRequestBytes) = true := by
            rw [htake]
            exact hasEmptyLine_iff.mpr
              ((hasEmptyLine_iff.mp hhead.1).trans (List.prefix_append _ _).isInfix)
          rw [if_pos hsome, if_neg hlong, htake]
    | cons chunk front ih =>
        have hcons : received ++ bytesOf (chunk :: front) =
            received ++ chunk.bytes ++ bytesOf front := by
          rw [bytesOf, List.flatMap_cons, List.append_assoc]
          rfl
        rw [hcons] at hline hbytes
        have hchunk : chunk.time < deadline := hfront chunk List.mem_cons_self
        have hnone : hasEmptyLine (received ++ chunk.bytes) = false :=
          hasEmptyLine_mono (List.prefix_append _ _) hline
        have hshort : (received ++ chunk.bytes).length < head.length := by
          have hread : received ++ chunk.bytes <+: head ++ rest := by
            rw [← hbytes, List.append_assoc]
            exact List.prefix_append _ _
          exact hhead.length_lt hread hnone
        rw [List.cons_append, readRequest_cons hnow hchunk hroom,
          hasEmptyLine_mono (List.take_prefix _ _) hnone, if_neg (by simp)]
        rcases Nat.lt_or_ge (received ++ chunk.bytes).length maxRequestBytes with hfit | hcut
        · rw [List.take_of_length_le hfit.le]
          exact ih (by omega) (fun chunk h => hfront chunk (List.mem_cons_of_mem _ h)) hfit.le
            hline hbytes hshort hfit
        · -- a cut piece fills the request, and its head is longer still
          have htake : ((received ++ chunk.bytes).take maxRequestBytes).length =
              maxRequestBytes := by
            rw [List.length_take]
            omega
          refine ⟨max now chunk.time, by omega, ?_⟩
          rw [readRequest_full (by omega) htake, if_pos (by omega)]
  · exact ⟨now, hnow, by rw [readRequest_full hnow hfull, if_pos (by omega)]⟩

/-- What is read to an empty line was brought in time. -/
theorem exists_pieces_of_readRequest (hroom : received.length ≤ maxRequestBytes)
    (hline : hasEmptyLine received = false)
    (h : (readRequest deadline ending chunks received now).1 = .ok bytes) :
    ∃ front last behind, chunks = front ++ last :: behind ∧
      (∀ chunk ∈ front, chunk.time < deadline) ∧ last.time < deadline ∧
      hasEmptyLine (received ++ bytesOf front) = false ∧ hasEmptyLine bytes = true ∧
      bytes = (received ++ bytesOf front ++ last.bytes).take maxRequestBytes := by
  rcases Nat.lt_or_ge now deadline with hnow | hlate
  · rcases Nat.lt_or_eq_of_le hroom with hroom | hfull
    · induction chunks generalizing received now with
      | nil =>
          rw [readRequest, readLimit_of_lt hnow hroom] at h
          cases h
      | cons chunk chunks ih =>
          by_cases hchunk : chunk.time < deadline
          · rw [readRequest_cons hnow hchunk hroom] at h
            by_cases hfound : hasEmptyLine ((received ++ chunk.bytes).take maxRequestBytes) = true
            · rw [if_pos hfound] at h
              obtain rfl := Except.ok.inj h
              exact ⟨[], chunk, chunks, rfl, List.forall_mem_nil _, hchunk, by simpa [bytesOf],
                hfound, by simp [bytesOf]⟩
            · rw [if_neg hfound] at h
              have hnow' : max now chunk.time < deadline := by omega
              -- a cut piece fills the request, and then nothing is accepted any more
              rcases Nat.lt_or_ge (received ++ chunk.bytes).length maxRequestBytes with hfit | hcut
              · rw [List.take_of_length_le hfit.le] at h hfound
                obtain ⟨front, last, behind, rfl, hfront, hlast, hnone, hsome, rfl⟩ :=
                  ih hfit.le (Bool.not_eq_true _ ▸ hfound) h hnow' hfit
                refine ⟨chunk :: front, last, behind, rfl, ?_, hlast, ?_, hsome, ?_⟩
                · exact List.forall_mem_cons.mpr ⟨hchunk, hfront⟩
                · rw [← hnone, bytesOf, List.flatMap_cons, List.append_assoc]
                  rfl
                · rw [bytesOf, bytesOf, List.flatMap_cons, ← List.append_assoc received]
              · rw [readRequest_full hnow' (by rw [List.length_take]; omega)] at h
                cases h
          · rw [readRequest, readLimit_of_lt hnow hroom] at h
            dsimp only at h
            rw [if_pos (by omega)] at h
            cases h
    · rw [readRequest_full hnow hfull] at h
      cases h
  · rw [readRequest_late hlate] at h
    cases h

/-- A connection that settles is done with before the deadline; any other lasts until then. -/
theorem readRequest_settles (hnow : now < deadline) (hroom : received.length < maxRequestBytes) :
    (settlesFrom deadline ending chunks received →
        (readRequest deadline ending chunks received now).2 < deadline) ∧
      (¬ settlesFrom deadline ending chunks received →
        readRequest deadline ending chunks received now = (.error .timedOut, deadline)) := by
  induction chunks generalizing received now with
  | nil =>
      rw [readRequest, readLimit_of_lt hnow hroom]
      cases ending with
      | stalls => exact ⟨False.elim, fun _ => rfl⟩
      | closes time =>
          refine ⟨fun h => ?_, fun h => ?_⟩ <;> simp only [settlesFrom, Ending.Before] at h
          · simp only [readNothing, if_neg (Nat.not_le.mpr h)]
            omega
          · simp only [readNothing, if_pos (Nat.le_of_not_lt h)]
      | breaks time =>
          refine ⟨fun h => ?_, fun h => ?_⟩ <;> simp only [settlesFrom, Ending.Before] at h
          · simp only [readNothing, if_neg (Nat.not_le.mpr h)]
            omega
          · simp only [readNothing, if_pos (Nat.le_of_not_lt h)]
  | cons chunk chunks ih =>
      by_cases hchunk : chunk.time < deadline
      · rw [readRequest_cons hnow hchunk hroom]
        have hnow' : max now chunk.time < deadline := by omega
        rcases Nat.lt_or_ge (received ++ chunk.bytes).length maxRequestBytes with hfit | hcut
        · rw [List.take_of_length_le hfit.le]
          by_cases hfound : hasEmptyLine (received ++ chunk.bytes) = true
          · rw [if_pos hfound]
            exact ⟨fun _ => hnow', fun h => absurd ⟨hchunk, Or.inl hfound⟩ h⟩
          · rw [if_neg hfound]
            obtain ⟨hsettles, hlasts⟩ := ih hnow' hfit
            refine ⟨fun h => hsettles ?_, fun h => hlasts fun hrest => h ?_⟩
            · exact (h.2.resolve_left hfound).resolve_left (Nat.not_le.mpr hfit)
            · exact ⟨hchunk, Or.inr (Or.inr hrest)⟩
        · refine ⟨fun _ => ?_, fun h => absurd ⟨hchunk, Or.inr (Or.inl hcut)⟩ h⟩
          split
          · exact hnow'
          · rw [readRequest_full hnow' (by rw [List.length_take]; omega)]
            exact hnow'
      · refine ⟨fun h => absurd h.1 hchunk, fun _ => ?_⟩
        rw [readRequest, readLimit_of_lt hnow hroom]
        exact if_pos (Nat.le_of_not_lt hchunk)

end MyVault.Auth
