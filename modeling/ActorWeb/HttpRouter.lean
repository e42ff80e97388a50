import ActorWeb.JsText
import ActorWeb.OrderedMap

/-! The HTTP router: the route that takes a request, its parameters, and what is answered. -/

namespace ActorWeb.HttpRouter

open List JsText

def isSyntaxCharacter (c : Char) : Bool :=
  c ∈ ['.', '*', '+', '?', '^', '$', '{', '}', '(', ')', '|', '[', ']', '\\']

def source : List Char → List Char
  | ':' :: _ :: _ => ['(', '[', '^', '/', ']', '+', ')']
  | part => part.flatMap fun c => if isSyntaxCharacter c then ['\\', c] else [c]

def nameOf : List Char → Option (List Char)
  | ':' :: c :: name => some (c :: name)
  | _ => none

/-- `escaped` is the text between `^` and `$` of the pattern. -/
structure RouteMatcher where
  names : List (List Char)
  escaped : List Char

def compileRoutePath (path : List Char) : RouteMatcher where
  names := (path.splitOn '/').filterMap nameOf
  escaped := ['/'].intercalate ((path.splitOn '/').map source)

inductive Token
  | char (c : Char)
  | segment

/-- The reading of an expression, `none` beyond escapes, plain characters and `([^/]+)`. -/
def tokens : List Char → Option (List Token)
  | [] => some []
  | '\\' :: c :: rest => if isSyntaxCharacter c then (tokens rest).map (.char c :: ·) else none
  | '(' :: '[' :: '^' :: '/' :: ']' :: '+' :: ')' :: rest => (tokens rest).map (.segment :: ·)
  | c :: rest => if isSyntaxCharacter c then none else (tokens rest).map (.char c :: ·)

/-- The captures of the first match in the order of backtracking: the longest run comes first. -/
def exec : List Token → List Char → Option (List (List Char))
  | [], [] => some []
  | [], _ :: _ | .char _ :: _, [] => none
  | .char c :: ts, d :: cs => if c = d then exec ts cs else none
  | .segment :: ts, cs =>
    (range (cs.takeWhile (· ≠ '/')).length).reverse.findSome? fun n =>
      (exec ts (cs.drop (n + 1))).map (cs.take (n + 1) :: ·)

abbrev Params := OrderedMap (List Char) (List Char)

def params : List (List Char) → List (List Char) → Option (List (List Char × List Char))
  | [], _ => some []
  | name :: names, captured =>
    (decodeURIComponent (captured.headD [])).bind fun value =>
      (params names captured.tail).map ((name, value) :: ·)

def fromEntries (entries : List (List Char × List Char)) : Params :=
  entries.foldl (fun o e => o.set e.1 e.2) .empty

/-- `none` where a capture cannot be decoded, `some none` without a match. -/
def RouteMatcher.matches (matcher : RouteMatcher) (pathname : List Char) : Option (Option Params) :=
  match (tokens matcher.escaped).bind (exec · pathname) with
  | none => some none
  | some captured => (params matcher.names captured).map fun entries => some (fromEntries entries)

/-- The match by segments. -/
def matchSegments : List (List Char) → List (List Char) → Option (List (List Char))
  | [], [] => some []
  | part :: parts, segment :: segments =>
    match nameOf part with
    | some _ => if segment = [] then none else (matchSegments parts segments).map (segment :: ·)
    | none => if part = segment then matchSegments parts segments else none
  | _, _ => none

section Matching

variable {part segment path cs : List Char} {parts segments : List (List Char)} {ts : List Token}

def tokensOf (part : List Char) : List Token :=
  match nameOf part with
  | some _ => [.segment]
  | none => part.map .char

theorem tokens_escape (part rest : List Char) :
    tokens ((part.flatMap fun c => if isSyntaxCharacter c then ['\\', c] else [c]) ++ rest) =
      (tokens rest).map (part.map .char ++ ·) := by
  induction part with
  | nil => simp
  | cons c part ih =>
    rw [flatMap_cons, append_assoc]
    by_cases hc : isSyntaxCharacter c = true
    · simp [hc, tokens, ih, Function.comp_def]
    · rw [if_neg hc, singleton_append, tokens.eq_4, if_neg hc, ih]
      · simp [Function.comp_def]
      · rintro _ _ rfl
        exact absurd hc (by decide)
      · rintro _ rfl
        exact absurd hc (by decide)

theorem tokens_source (part rest : List Char) :
    tokens (source part ++ rest) = (tokens rest).map (tokensOf part ++ ·) := by
  cases hname : nameOf part with
  | some name =>
    obtain ⟨c, cs, rfl⟩ : ∃ c cs, part = ':' :: c :: cs := by
      unfold nameOf at hname
      split at hname
      · exact ⟨_, _, rfl⟩
      · cases hname
    simp [source, tokensOf, nameOf, tokens]
  | none =>
    rw [source.eq_2 part (by rintro c cs rfl; simp [nameOf] at hname), tokens_escape, tokensOf, hname]

theorem tokens_sources (parts : List (List Char)) :
    tokens (parts.flatMap fun part => '/' :: source part) =
      some (parts.flatMap fun part => .char '/' :: tokensOf part) := by
  induction parts with
  | nil => rfl
  | cons part parts ih =>
    have hslash : ∀ rest, tokens ('/' :: rest) = (tokens rest).map (.char '/' :: ·) := fun rest => by
      rw [tokens.eq_4 _ _ (by simp) (by simp)]
      rfl
    rw [flatMap_cons, cons_append, hslash, tokens_source, ih]
    simp

theorem intercalate_slash (segment : List Char) (segments : List (List Char)) :
    ['/'].intercalate (segment :: segments) = segment ++ segments.flatMap ('/' :: ·) := by
  induction segments generalizing segment with
  | nil => simp
  | cons s segments ih => rw [intercalate_cons_cons, ih, flatMap_cons]; simp

/-- What follows a part, in an expression or in a path. -/
def Cut {α : Type} (slash : α) (xs : List α) : Prop := ∀ x ∈ xs.head?, x = slash

theorem cut_flatMap {α β : Type} (slash : α) (f : β → List α) (xs : List β) :
    Cut slash (xs.flatMap fun x => slash :: f x) := by
  cases xs <;> simp [Cut]

theorem exec_stuck (hts : Cut (.char '/') ts) {c : Char} (hc : c ≠ '/') : exec ts (c :: cs) = none := by
  cases ts with
  | nil => rfl
  | cons t ts =>
    obtain rfl := hts t rfl
    simp [exec, Ne.symm hc]

theorem exec_literal (hts : Cut (.char '/') ts) (hcs : Cut '/' cs) (hpart : '/' ∉ part)
    (hsegment : '/' ∉ segment) :
    exec (part.map .char ++ ts) (segment ++ cs) = if part = segment then exec ts cs else none := by
  induction part generalizing segment with
  | nil =>
    cases segment with
    | nil => simp
    | cons d segment => simpa using exec_stuck hts fun hd => hsegment (hd ▸ mem_cons_self)
  | cons c part ih =>
    have hc : c ≠ '/' := fun hc => hpart (hc ▸ mem_cons_self)
    cases segment with
    | nil =>
      cases cs with
      | nil => rfl
      | cons d cs => simp [exec, hcs d rfl, hc]
    | cons d segment =>
      have hrest := ih (fun h => hpart (mem_cons_of_mem _ h)) fun h => hsegment (mem_cons_of_mem _ h)
      by_cases hd : c = d
      · simp [exec, hd, hrest]
      · simp [exec, hd]

/-- The run of a capture is the segment, and no shorter run lets the rest match. -/
theorem exec_segment (hts : Cut (.char '/') ts) (hcs : Cut '/' cs) (hsegment : '/' ∉ segment) :
    exec (.segment :: ts) (segment ++ cs) =
      if segment = [] then none else (exec ts cs).map (segment :: ·) := by
  have hrun : (segment ++ cs).takeWhile (· ≠ '/') = segment := by
    rw [takeWhile_append_of_pos fun c hc => by simpa using fun h : c = '/' => hsegment (h ▸ hc)]
    cases cs with
    | nil => simp
    | cons d cs => simp [hcs d rfl]
  rw [exec, hrun]
  cases hlength : segment.length with
  | zero => simp [length_eq_zero_iff.mp hlength]
  | succ k =>
    have hshorter : (range k).reverse.findSome? (fun n =>
        (exec ts ((segment ++ cs).drop (n + 1))).map ((segment ++ cs).take (n + 1) :: ·)) = none := by
      refine findSome?_eq_none_iff.mpr fun n hn => ?_
      have hlt : n + 1 < segment.length := by simp at hn; omega
      rw [drop_append_of_le_length hlt.le, drop_eq_getElem_cons hlt, cons_append,
        exec_stuck hts fun h => hsegment (h ▸ getElem_mem hlt)]
      rfl
    have hne : segment ≠ [] := by rintro rfl; cases hlength
    rw [range_succ, reverse_append, reverse_singleton, singleton_append, findSome?_cons, ← hlength,
      drop_left, take_left, hshorter, if_neg hne]
    cases exec ts cs <;> rfl

theorem exec_segments (hparts : ∀ part ∈ parts, '/' ∉ part)
    (hsegments : ∀ segment ∈ segments, '/' ∉ segment) :
    exec (parts.flatMap fun part => .char '/' :: tokensOf part) (segments.flatMap ('/' :: ·)) =
      matchSegments parts segments := by
  induction parts generalizing segments with
  | nil => cases segments <;> rfl
  | cons part parts ih =>
    cases segments with
    | nil => rfl
    | cons segment segments =>
      obtain ⟨hpart, hparts⟩ := forall_mem_cons.mp hparts
      obtain ⟨hsegment, hsegments⟩ := forall_mem_cons.mp hsegments
      have hts := cut_flatMap (.char '/') tokensOf parts
      have hcs : Cut '/' (segments.flatMap ('/' :: ·)) := cut_flatMap '/' id segments
      rw [flatMap_cons, flatMap_cons, cons_append, cons_append, exec, if_pos rfl, matchSegments, tokensOf]
      cases nameOf part with
      | some name => exact (exec_segment hts hcs hsegment).trans (by rw [ih hparts hsegments])
      | none => exact (exec_literal hts hcs hpart hsegment).trans (by rw [ih hparts hsegments])

theorem not_mem_of_mem_splitOn (h : segment ∈ cs.splitOn '/') : '/' ∉ segment := by
  induction cs generalizing segment with
  | nil => simp_all
  | cons c cs ih =>
    rw [splitOn_cons_eq_if_modifyHead] at h
    obtain ⟨s, ss, hsplit⟩ := exists_cons_of_ne_nil (splitOn_ne_nil '/' cs)
    rw [hsplit] at h ih
    split at h
    · obtain rfl | h := mem_cons.mp h
      · simp
      · exact ih h
    case isFalse hc =>
      obtain rfl | h := mem_cons.mp h
      · simpa [eq_comm] using ⟨by simpa using hc, ih mem_cons_self⟩
      · exact ih (mem_cons_of_mem _ h)

/-- The expression that is compiled from a path matches by segments. -/
theorem exec_compileRoutePath (path pathname : List Char) :
    (tokens (compileRoutePath path).escaped).bind (exec · pathname) =
      matchSegments (path.splitOn '/') (pathname.splitOn '/') := by
  have hparts : ∀ part ∈ path.splitOn '/', '/' ∉ part := fun _ => not_mem_of_mem_splitOn
  have hsegments : ∀ segment ∈ pathname.splitOn '/', '/' ∉ segment := fun _ =>
    not_mem_of_mem_splitOn
  have hpathname : ['/'].intercalate (pathname.splitOn '/') = pathname := intercalate_splitOn '/'
  obtain ⟨part, parts, hpath⟩ := exists_cons_of_ne_nil (splitOn_ne_nil '/' path)
  obtain ⟨segment, segments, hsplit⟩ := exists_cons_of_ne_nil (splitOn_ne_nil '/' pathname)
  rw [hpath] at hparts
  rw [hsplit] at hsegments hpathname
  rw [compileRoutePath, hpath, hsplit, ← exec_segments hparts hsegments, map_cons, intercalate_slash,
    flatMap_map, tokens_source, tokens_sources, ← hpathname, intercalate_slash]
  rfl

/-- A route takes a path exactly if its segments do. -/
theorem matches_by_segments (path pathname : List Char) :
    (compileRoutePath path).matches pathname =
      match matchSegments (path.splitOn '/') (pathname.splitOn '/') with
      | none => some none
      | some captured =>
        (params (compileRoutePath path).names captured).map fun entries =>
          some (fromEntries entries) := by
  rw [RouteMatcher.matches, exec_compileRoutePath]

end Matching

section RoundTrip

variable {cs : List Char} {value : List Char → List Char}

theorem encode_ne_nil (hcs : cs ≠ []) : cs.flatMap encodeChar ≠ [] := by
  intro hnil
  have hdecode := decodeURIComponent_encode cs
  rw [hnil] at hdecode
  exact hcs (Option.some.inj (hdecode.symm.trans (decodeURIComponent_encode [])))

/-- The path with encoded values in the places of its names. -/
def target (value : List Char → List Char) (path : List Char) : List Char :=
  ['/'].intercalate ((path.splitOn '/').map fun part =>
    ((nameOf part).map fun name => (value name).flatMap encodeChar).getD part)

theorem matchSegments_target {parts : List (List Char)}
    (hvalue : ∀ name ∈ parts.filterMap nameOf, value name ≠ []) :
    matchSegments parts (parts.map fun part =>
        ((nameOf part).map fun name => (value name).flatMap encodeChar).getD part) =
      some ((parts.filterMap nameOf).map fun name => (value name).flatMap encodeChar) := by
  induction parts with
  | nil => rfl
  | cons part parts ih =>
    rw [map_cons, matchSegments]
    cases hname : nameOf part with
    | none =>
      rw [filterMap_cons_none hname] at hvalue ⊢
      simp [ih hvalue]
    | some name =>
      rw [filterMap_cons_some hname] at hvalue ⊢
      obtain ⟨hfirst, hrest⟩ := forall_mem_cons.mp hvalue
      simp only [Option.map_some, Option.getD_some, if_neg (encode_ne_nil hfirst), ih hrest, map_cons]

theorem params_encode (names : List (List Char)) :
    params names (names.map fun name => (value name).flatMap encodeChar) =
      some (names.map fun name => (name, value name)) := by
  induction names with
  | nil => rfl
  | cons name names ih => simp [params, decodeURIComponent_encode, ih]

theorem fromEntries_get (names : List (List Char)) (k : List Char) (o : Params) :
    let ps := (names.map fun name => (name, value name)).foldl (fun o e => o.set e.1 e.2) o
    (k ∈ names → ps.get k = some (value k)) ∧ (k ∉ names → ps.get k = o.get k) := by
  induction names generalizing o with
  | nil => exact ⟨fun h => absurd h not_mem_nil, fun _ => rfl⟩
  | cons name names ih =>
    obtain ⟨hmem, hnew⟩ := ih (o.set name (value name))
    rw [map_cons, foldl_cons]
    by_cases hk : k ∈ names
    · exact ⟨fun _ => hmem hk, fun h => absurd (mem_cons_of_mem _ hk) h⟩
    · dsimp only
      rw [hnew hk, OrderedMap.get_set]
      by_cases hname : k = name <;> simp [hname, hk]

/-- The parameters of a path that is built from values are the values. -/
theorem matches_target (path : List Char)
    (hvalue : ∀ name ∈ (compileRoutePath path).names, value name ≠ []) :
    ∃ ps, (compileRoutePath path).matches (target value path) = some (some ps) ∧
      ∀ name, (name ∈ (compileRoutePath path).names → ps.get name = some (value name)) ∧
        (name ∉ (compileRoutePath path).names → ps.get name = none) := by
  have hsplit : (target value path).splitOn '/' = (path.splitOn '/').map fun part =>
      ((nameOf part).map fun name => (value name).flatMap encodeChar).getD part := by
    refine splitOn_intercalate '/' (fun segment hsegment => ?_) (by simp)
    obtain ⟨part, hpart, rfl⟩ := mem_map.mp hsegment
    cases nameOf part with
    | none => exact not_mem_of_mem_splitOn hpart
    | some name => exact not_mem_encode (by decide) _
  refine ⟨_, ?_, fun name => fromEntries_get _ name .empty⟩
  rw [RouteMatcher.matches, exec_compileRoutePath, hsplit, matchSegments_target hvalue]
  exact congrArg (Option.map fun entries => some (fromEntries entries)) (params_encode _)

theorem matches_target_slash :
    ∃ ps, (compileRoutePath ['/', ':', 'a']).matches
        (target (fun _ => ['/']) ['/', ':', 'a']) = some (some ps) ∧
      ∀ name, (name ∈ [['a']] → ps.get name = some ['/']) ∧ (name ∉ [['a']] → ps.get name = none) :=
  matches_target ['/', ':', 'a'] (by simp)

end RoundTrip

/-- A call of the response; `serializes` where `JSON.stringify` of its body returns, `caught` where
the handler goes on after a throw. -/
structure Attempt where
  status : Nat
  serializes : Bool := true
  caught : Bool := false

/-- What a handler does with the response, and whether it rejects after that. -/
structure Behaviour where
  attempts : List Attempt
  rejects : Bool

structure Route where
  method : String
  path : List Char
  handler : Params → Behaviour

/-- `pathname` is none where the URL is invalid, and `readable` where the body can be read. -/
structure Request where
  method : Option String
  pathname : Option (List Char)
  readable : Bool

/-- The statuses of the heads that were written. -/
abbrev Response := List Nat

/-- `sendJson`, with whether it throws: `writeHead` does once a head was written, or on a status
without three digits. -/
def sendJson (a : Attempt) (response : Response) : Response × Bool :=
  if response = [] ∧ 100 ≤ a.status ∧ a.status ≤ 999 then ([a.status], !a.serializes)
  else (response, true)

def runHandler (rejects : Bool) : List Attempt → Response → Response × Bool
  | [], response => (response, rejects)
  | a :: as, response =>
    match sendJson a response with
    | (response, true) => if a.caught then runHandler rejects as response else (response, true)
    | (response, false) => runHandler rejects as response

structure Handled where
  response : Response
  invoked : Option (Route × Params)
  rejects : Bool

def matched (routes : List Route) (method : String) (pathname : List Char) :
    Option (Option (Route × Params)) :=
  ((routes.filter (·.method = method)).mapM fun route =>
    ((compileRoutePath route.path).matches pathname).map fun ps => ps.map (route, ·)).map
      fun matches' => matches'.findSome? id

def routeMatch (routes : List Route) (request : Request) : Option (Option (Route × Params)) :=
  request.pathname.bind (matched routes (request.method.getD "GET").toUpper)

def caught (response : Response) (invoked : Option (Route × Params)) : Handled :=
  let (response, threw) := sendJson ⟨500, true, false⟩ response
  ⟨response, invoked, threw⟩

def handleRequest (routes : List Route) (request : Request) : Handled :=
  if request.method = some "OPTIONS" then ⟨(sendJson ⟨204, true, false⟩ []).1, none, false⟩
  else
    match routeMatch routes request with
    | none => caught [] none
    | some none => ⟨(sendJson ⟨404, true, false⟩ []).1, none, false⟩
    | some (some (route, ps)) =>
      if request.readable then
        match runHandler (route.handler ps).rejects (route.handler ps).attempts [] with
        | (response, true) => caught response (some (route, ps))
        | (response, false) => ⟨response, some (route, ps), false⟩
      else caught [] none

section Handling

variable {routes : List Route} {request : Request} {method : String} {pathname : List Char}

theorem sendJson_length (a : Attempt) {response : Response} (h : response.length ≤ 1) :
    (sendJson a response).1.length ≤ 1 := by
  unfold sendJson
  split
  · exact le_rfl
  · exact h

theorem runHandler_length (rejects : Bool) (attempts : List Attempt) {response : Response}
    (h : response.length ≤ 1) : (runHandler rejects attempts response).1.length ≤ 1 := by
  induction attempts generalizing response with
  | nil => exact h
  | cons a attempts ih =>
    have hsent := sendJson_length a h
    unfold runHandler
    split
    case h_1 response' heq =>
      rw [heq] at hsent
      split
      · exact ih hsent
      · exact hsent
    case h_2 response' heq =>
      rw [heq] at hsent
      exact ih hsent

/-- The first route that matches is taken, unless a capture of any route cannot be decoded. -/
theorem matched_eq (routes : List Route) (method : String) (pathname : List Char) :
    matched routes method pathname =
      if ∀ r ∈ routes, r.method = method → ((compileRoutePath r.path).matches pathname).isSome then
        some ((routes.filter (·.method = method)).findSome? fun r =>
          ((compileRoutePath r.path).matches pathname).join.map (r, ·))
      else none := by
  unfold matched
  induction routes with
  | nil => simp
  | cons r routes ih =>
    by_cases hr : r.method = method
    · rw [filter_cons_of_pos (by simpa using hr), mapM_cons, findSome?_cons]
      cases hm : (compileRoutePath r.path).matches pathname with
      | none => simp [hr, hm]
      | some found =>
        simp only [forall_mem_cons, hr, hm, Option.isSome_some, true_implies, true_and,
          Option.map_some, Option.join_some]
        split at ih
        case isTrue hall =>
          obtain ⟨ms, hms, hfirst⟩ := Option.map_eq_some_iff.mp ih
          rw [if_pos hall, hms, ← hfirst]
          cases found <;> rfl
        case isFalse hall =>
          rw [if_neg hall, Option.map_eq_none_iff.mp ih]
          rfl
    · rw [filter_cons_of_neg (by simpa using hr), ih]
      simp [hr]

/-- At most one head is written; the handler of the first match runs where all captures of the
method's routes decode, and the request is rejected exactly where it fails after it has answered. -/
theorem handleRequest_law (routes : List Route) (request : Request) :
    (handleRequest routes request).response.length ≤ 1 ∧
    ((handleRequest routes request).rejects = true ↔
      ∃ route ps, (handleRequest routes request).invoked = some (route, ps) ∧
        ∃ status, runHandler (route.handler ps).rejects (route.handler ps).attempts [] =
          ([status], true)) ∧
    ((handleRequest routes request).invoked = none → (handleRequest routes request).response =
      [if request.method = some "OPTIONS" then 204
        else match routeMatch routes request with | some none => 404 | _ => 500]) ∧
    ∀ found, (handleRequest routes request).invoked = some found ↔
      request.method ≠ some "OPTIONS" ∧ request.readable = true ∧
        routeMatch routes request = some (some found) := by
  unfold handleRequest
  split
  case isTrue hoptions => simp [sendJson, hoptions]
  case isFalse hoptions =>
    split
    case h_1 hmatched => simp [caught, sendJson, hoptions, hmatched]
    case h_2 hmatched => simp [sendJson, hoptions, hmatched]
    case h_3 route ps hmatched =>
      split
      case isFalse hread => simp [caught, sendJson, hoptions, hmatched, hread]
      case isTrue hread =>
        have hlength := runHandler_length (route.handler ps).rejects (route.handler ps).attempts
          (show ([] : Response).length ≤ 1 by simp)
        split
        case h_1 response hrun =>
          rw [hrun] at hlength
          cases response with
          | nil => simp [caught, sendJson, hoptions, hmatched, hread, hrun]
          | cons status rest =>
            obtain rfl : rest = [] := by simpa using hlength
            simp [caught, sendJson, hoptions, hmatched, hread, hrun]
        case h_2 response hrun =>
          rw [hrun] at hlength
          simp [hoptions, hmatched, hread, hrun, hlength]

end Handling

end ActorWeb.HttpRouter
