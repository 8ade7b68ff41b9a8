import LibreRoute.Bridge.Http

/-!
Heads that are complete, and heads that just end.

`readHeaderLine` returns an empty line both for the CR LF that ends a head
and for the end of the stream. A client that closes in the middle of a
head is therefore served as if it had finished: what saves it is only
that the part it has sent may not make a request that is accepted.
-/

namespace LibreRoute.Bridge

open Lib

/-- A stream holds the head of a request: a request line and header lines that each end with
CR LF, and an empty line that does. One empty line before the request line is overlooked. -/
def HoldsHead (stream : List UInt8) : Prop :=
  ∃ (before requestLine : List UInt8) (headers : List (List UInt8)) (rest : List UInt8),
    (before = [] ∨ before = [13, 10]) ∧ requestLine ≠ [] ∧ IsLine requestLine ∧
    (∀ header ∈ headers, header ≠ [] ∧ IsLine header) ∧
    stream = before ++ requestLine ++ 13 :: 10 ::
      (headers.flatMap (· ++ [13, 10]) ++ 13 :: 10 :: rest)

theorem exists_headers_of_headEnds {bytes : List UInt8} (h : headEnds bytes = true) :
    ∃ (headers : List (List UInt8)) (rest : List UInt8),
      (∀ header ∈ headers, header ≠ [] ∧ IsLine header) ∧
      bytes = headers.flatMap (· ++ [13, 10]) ++ 13 :: 10 :: rest := by
  induction hn : bytes.length using Nat.strongRecOn generalizing bytes with
  | _ n ih =>
    subst hn
    rcases hcut : cutLine bytes with ⟨line, _ | rest⟩
    · rw [headEnds_of_none hcut] at h
      cases h
    · obtain ⟨hline, hbytes⟩ := cutLine_eq_some hcut
      cases line with
      | nil => exact ⟨[], rest, by simp, by simpa using hbytes⟩
      | cons b line =>
        rw [headEnds_of_some hcut] at h
        obtain ⟨headers, final, hheaders, hrest⟩ := ih rest.length (length_cutLine hcut) h rfl
        refine ⟨(b :: line) :: headers, final, ?_, ?_⟩
        · intro header hmem
          rcases List.mem_cons.1 hmem with rfl | hmem
          · exact ⟨by simp, hline⟩
          · exact hheaders header hmem
        · rw [hbytes, hrest]
          simp

theorem HoldsHead.blank_inside {b : UInt8} {bytes : List UInt8} (h : HoldsHead (b :: bytes)) :
    [13, 10, 13, 10] <:+: bytes := by
  obtain ⟨before, requestLine, headers, rest, -, hne, -, -, hstream⟩ := h
  -- The line before the empty one: the last header line, or the request line.
  obtain ⟨front, hfront⟩ : ∃ front, requestLine ++ 13 :: 10 :: headers.flatMap (· ++ [13, 10]) =
      requestLine ++ front ++ [13, 10] := by
    rcases List.eq_nil_or_concat headers with rfl | ⟨others, last, rfl⟩
    · exact ⟨[], by simp⟩
    · exact ⟨13 :: 10 :: (others.flatMap (· ++ [13, 10]) ++ last), by simp⟩
  have hsplit : b :: bytes = (before ++ requestLine ++ front) ++ ([13, 10, 13, 10] ++ rest) := by
    rw [hstream]
    calc before ++ requestLine ++ 13 :: 10 :: (headers.flatMap (· ++ [13, 10]) ++ 13 :: 10 :: rest)
        = before ++ (requestLine ++ 13 :: 10 :: headers.flatMap (· ++ [13, 10])) ++
            13 :: 10 :: rest := by simp
      _ = before ++ (requestLine ++ front ++ [13, 10]) ++ 13 :: 10 :: rest := by rw [hfront]
      _ = _ := by simp
  cases hwhole : before ++ requestLine ++ front with
  | nil =>
    simp only [List.append_eq_nil_iff] at hwhole
    exact absurd hwhole.1.2 hne
  | cons c more =>
    rw [hwhole, List.cons_append] at hsplit
    rw [(List.cons.inj hsplit).2]
    exact ⟨more, rest, by simp⟩

theorem eq_of_split {s x y z : String} {c : Char} (h : split s c = [x, y, z]) :
    s.toList = x.toList ++ c :: (y.toList ++ c :: z.toList) := by
  have hinter : [c].intercalate (s.toList.splitOn c) = s.toList := List.intercalate_splitOn c
  have hparts : s.toList.splitOn c = [x.toList, y.toList, z.toList] := by
    have hmap := congrArg (List.map String.toList) h
    simpa [split, Function.comp_def] using hmap
  rw [hparts] at hinter
  rw [← hinter]
  simp [List.intercalate]

theorem length_of_readHead {b : UInt8} {s t : Stream IoException} {request : HttpRequest}
    (h : (readHead b.toNat).run s = .ok (some request, t)) : 9 ≤ (cutLine s.bytes).1.length := by
  obtain ⟨method, hparts, hversion, -⟩ := readHead_eq_some h
  have hversion8 : request.version.toList.length = 8 := by
    rcases hversion with hversion | hversion <;> rw [hversion] <;> decide
  have hlength := congrArg List.length (eq_of_split hparts)
  simp [latin1] at hlength
  omega

section

variable {D : Utf8.Decoder} {N : NameLibrary} {config : ListenerConfig} {b : UInt8}
  {stream : Stream IoException} {request : HttpRequest} {destination : HttpProxyTarget}

theorem holdsHead_of_accepts (h : Accepts D N config b stream request destination)
    (hblank : [13, 10, 13, 10] <:+: stream.bytes) : HoldsHead (b :: stream.bytes) := by
  obtain ⟨rest, hread⟩ := h.read
  have hlength := length_of_readHead hread
  rcases hcut : cutLine stream.bytes with ⟨line, _ | after⟩
  · -- Without a CR LF there are not two of them.
    obtain ⟨hline, heq⟩ := cutLine_eq_none hcut
    rw [heq] at hblank
    exact absurd ((List.prefix_append [13, 10] [13, 10]).isInfix.trans hblank) hline
  · obtain ⟨hline, hbytes⟩ := cutLine_eq_some hcut
    rw [hcut] at hlength
    rw [hbytes, blank_inside_append_iff hline, ← headEnds_iff] at hblank
    obtain ⟨headers, final, hheaders, hafter⟩ := exists_headers_of_headEnds hblank
    by_cases hfirst : [13, 10] <+: b :: line
    · obtain ⟨requestLine, hrequestLine⟩ := hfirst
      simp only [List.cons_append, List.nil_append, List.cons.injEq] at hrequestLine
      obtain ⟨rfl, rfl⟩ := hrequestLine
      refine ⟨[13, 10], requestLine, headers, final, Or.inr rfl, ?_, (isLine_cons.1 hline).2,
        hheaders, by rw [hbytes, hafter]; simp⟩
      rintro rfl
      simp at hlength
    · exact ⟨[], b :: line, headers, final, Or.inl rfl, by simp, isLine_cons.2 ⟨hfirst, hline⟩,
        hheaders, by rw [hbytes, hafter]; simp⟩

theorem contacted_of_accepts (h : Accepts D N config b stream request destination) :
    .contacted ∈ ((handleHttp D N config b.toNat).run ⟨stream, willing, true, []⟩ []).2.1.log := by
  obtain ⟨rest, hexec⟩ := exec_handleHttp (s := ⟨stream, willing, true, []⟩) h
  rw [exec_openUpstream_refused rfl] at hexec
  rw [run_nil_state, hexec]
  simp

end

theorem http_contact_complete_iff (D : Utf8.Decoder) (N : NameLibrary) (config : ListenerConfig)
    (b : UInt8) (stream : Stream IoException) :
    (∀ (s : Session) (fates : List (Fate IoException)), s.cin = stream → s.log = [] →
      .contacted ∈ ((handleHttp D N config b.toNat).run s fates).2.1.log →
      HoldsHead (b :: stream.bytes)) ↔
    ([13, 10, 13, 10] <:+: stream.bytes ∨
      ∀ request destination, ¬ Accepts D N config b stream request destination) := by
  constructor
  · intro hcomplete
    by_cases hblank : [13, 10, 13, 10] <:+: stream.bytes
    · exact Or.inl hblank
    · refine Or.inr fun request destination haccepts => hblank ?_
      exact (hcomplete _ [] rfl rfl (contacted_of_accepts haccepts)).blank_inside
  · intro hcondition s fates hcin hlog hcontacted
    have hall : ∀ event ∈ ((handleHttp D N config b.toNat).run s fates).2.1.log,
        event = .contacted → HoldsHead (b :: stream.bytes) := by
      refine log_final (handleHttp_wp
          (fun _ => admits_of_forall (by simp)) (by simp [hlog]) ?_) fates
      rw [hcin]
      intro request destination haccepts
      have hholds : HoldsHead (b :: stream.bytes) := by
        rcases hcondition with hblank | hrefused
        · exact holdsHead_of_accepts haccepts hblank
        · exact absurd haccepts (hrefused request destination)
      exact ⟨⟨admits_of_forall fun _ => hholds, fun _ => admits_of_forall (by simp),
        admits_of_forall (by simp), fun _ => admits_of_forall (by simp)⟩,
        fun _ _ log hlog _ => admits_of_forall (by simp) log hlog⟩
    exact hall _ hcontacted rfl

theorem run_readHead_get {bytes : List UInt8} {rest t : Stream IoException} {head : Head}
    (hline : readHeaderLine.run ⟨bytes, none⟩ = .ok ("ET http://a/ HTTP/1.1", rest))
    (hheaders : readHeaders ⟨[], none, []⟩ 0 rest = .ok (some head, t)) :
    (readHead (71 : UInt8).toNat).run ⟨bytes, none⟩ =
      .ok (some ⟨"GET", "http://a/", "HTTP/1.1", head⟩, t) := by
  have hparts : split (String.singleton (Char.ofNat ((71 : UInt8).toNat : Int).toNat) ++
      "ET http://a/ HTTP/1.1") ' ' = ["GET", "http://a/", "HTTP/1.1"] := by decide
  refine Reading.run_bind_eq_ok.2 ⟨_, _, hline, ?_⟩
  rw [hparts]
  exact Reading.run_bind_eq_ok.2 ⟨_, _, hheaders, rfl⟩

/-- A client that closes after the request line, which no CR LF ends. -/
theorem http_contact_unfinished :
    .contacted ∈ ((handleHttp Utf8.replacing plainNames ⟨false, "", ""⟩ (71 : UInt8).toNat).run
      ⟨⟨Utf8.encode "ET http://a/ HTTP/1.1", none⟩, willing, true, []⟩ []).2.1.log ∧
    ¬ HoldsHead (71 :: Utf8.encode "ET http://a/ HTTP/1.1") := by
  have hline : readHeaderLine.run ⟨Utf8.encode "ET http://a/ HTTP/1.1", none⟩ =
      .ok ("ET http://a/ HTTP/1.1", ⟨[], none⟩) := rfl
  have hend : readHeaderLine.run ⟨[], none⟩ = .ok ("", ⟨[], none⟩) := rfl
  have hheaders : readHeaders ⟨[], none, []⟩ 0 ⟨[], none⟩ =
      .ok (some ⟨[], none, []⟩, ⟨[], none⟩) := by
    rw [readHeaders, hend]
    rfl
  constructor
  · exact contacted_of_accepts ⟨⟨_, run_readHead_get hline hheaders⟩, by decide, rfl⟩
  · intro hholds
    exact absurd hholds.blank_inside (by decide)

end LibreRoute.Bridge
