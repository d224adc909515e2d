import ServiceWiring.Proofs.Artifact.RouteNames
import ServiceWiring.Text.Uppercase

/-!
# Handlers and declarations

A wiring goes through the routes of a file twice: each `RegisterHTTP` gets a handler block for each
route of its own service, and below all services stands a declaration block for each route. Names
are all that ties the two together. A handler refers to the unmarshaler of its route once, and to
the pattern twice, since a router of either kind is told the pattern.

So what the source refers to is compared with what it declares. Everything but the two kinds of
blocks is `RouteFree`; hence no other block takes part.

A block is found in the source by the part of a wiring that it is. What it should say is spelled out
here: the lines that call the method, the type of a request (`requestType`), and what becomes of its
body (`ReadsBody`).

Results:
* `exists_pieces_iff`: which wirings can be written.
* `Laid`: how the blocks of a wiring follow one another.
* `Laid.reads`: what a wiring does about the request and the body of each route.

Headline:
* **`handlers_match_declarations`**: there is one handler and one declaration for each bound method,
  in order, and the one refers to exactly what the other declares.
-/

namespace ServiceWiring

/-! ## References -/

namespace Piece

/-- The name that a piece refers to. -/
def referredName? : Piece → Option Text
  | .refers name => some name
  | _ => none

/-- The names that pieces refer to. -/
def referred (pieces : List Piece) : List Text := pieces.filterMap referredName?

/-- The names that pieces refer to and that start in the given way. -/
def referredFrom (start : Text) (pieces : List Piece) : List Text :=
  (referred pieces).filter start.isPrefixOf

variable {pieces : List Piece} {t path name : Text}

@[simp]
theorem referred_nil : referred [] = [] := rfl

@[simp]
theorem referred_append (xs ys : List Piece) : referred (xs ++ ys) = referred xs ++ referred ys :=
  List.filterMap_append

@[simp]
theorem referred_text : referred (.text t :: pieces) = referred pieces := rfl

@[simp]
theorem referred_qualifier : referred (.qualifier path name :: pieces) = referred pieces := rfl

@[simp]
theorem referred_declares : referred (.declares name :: pieces) = referred pieces := rfl

@[simp]
theorem referred_literal : referred (.literal t :: pieces) = referred pieces := rfl

@[simp]
theorem referred_refers : referred (.refers name :: pieces) = name :: referred pieces := rfl

theorem referred_flatMap {α : Type} (f : α → List Piece) (l : List α) :
    referred (l.flatMap f) = l.flatMap fun a => referred (f a) := List.filterMap_flatMap

theorem referredFrom_append (start : Text) (xs ys : List Piece) :
    referredFrom start (xs ++ ys) = referredFrom start xs ++ referredFrom start ys := by
  unfold referredFrom
  rw [referred_append, List.filter_append]

theorem referredFrom_flatMap {α : Type} (start : Text) (f : α → List Piece) (l : List α) :
    referredFrom start (l.flatMap f) = l.flatMap fun a => referredFrom start (f a) := by
  unfold referredFrom
  rw [referred_flatMap, List.filter_flatMap]

@[simp]
theorem referred_lines (ls : List (List Piece)) : referred (lines ls) = ls.flatMap referred := by
  unfold lines
  rw [referred_flatMap]
  simp

@[simp]
theorem referred_join (parts : List (List Piece)) :
    referred (join parts) = parts.flatMap referred := by
  unfold join
  rw [← List.flatMap_id, referred_flatMap]
  rfl

end Piece

open Piece (declared declaredFrom referred referredFrom lines join)

@[simp]
theorem Parameters.referred_use (p : Parameters) (path : Text) (pieces : List Piece) :
    referred (p.use path :: pieces) = referred pieces := rfl

theorem Message.referred_typeFrom (m : Message) (path qualifier : Text) :
    referred (m.typeFrom path qualifier) = [] := by
  unfold typeFrom
  split <;> rfl

/-- The capitals of a verb are those of its small letters. -/
theorem Verb.toUpper_eq (verb : Verb) : verb.toUpper = verb.toText.map CodePoint.toUpper := by
  cases verb <;> decide +kernel

namespace Wiring

variable {p : Parameters} {r : Route} {s : Service} {ps block : List Piece}

/-! ## Handlers -/

/-- A block handles the requests of a route: it reads them with the unmarshaler of the route, calls
the method, and registers that under the verb and the pattern of the route. It refers to nothing
else and declares nothing. -/
structure Handles (r : Route) (block : List Piece) : Prop where
  /-- Nothing is declared. -/
  declared : declared block = []
  /-- What is referred to, in order. -/
  referred : referred block = [r.unmarshaler, r.pattern, r.pattern]
  /-- A request is read and handed to the method. -/
  calls : lines [
    ["\t\t\tunmFunc := ", .refers r.unmarshaler, "(r)"],
    ["\t\t\trsp, err := _", r.service.name, "_", r.name,
      "_Handler(d.svc, r.Context(), unmFunc, d.opts.UnaryInterceptor)"]] <:+: block
  /-- Both kinds of routers are told the pattern, and one of them the verb. -/
  registers : lines [
    ["\t\tif isChi \x7b"],
    ["\t\t\tchiMux.Method(\"", r.bound.rule.verb.toUpper, "\", ", .refers r.pattern, ", h)"],
    ["\t\t\x7d else \x7b"],
    ["\t\t\tmux.Handle(", .refers r.pattern, ", h)"],
    ["\t\t\x7d"]] <:+: block

theorem handles_handlerBlock (p : Parameters) (r : Route) : Handles r (handlerBlock p.use r) where
  declared := declared_handlerBlock
  referred := rfl
  calls := (Piece.infix_join (by simp) : lines (callLines r) <:+: handlerBlock p.use r)
  registers := (Piece.infix_join (by simp) : lines (routerLines r) <:+: handlerBlock p.use r)

/-! ## Declarations -/

/-- The type of the requests of a route: a message of the file's own package has just its name, any
other has the short name of its package before it. -/
def requestType (p : Parameters) (r : Route) : Text :=
  let message := r.bound.method.request
  if message.package.path = p.file.package.path then message.name.display
  else message.package.shortName ++ "." ++ message.name.display

/-- The lines that read the body of a request into something. -/
def readInto (p : Parameters) (target : List Piece) : List Piece :=
  lines [
    [],
    ["\t\tinbound, _ := ", p.use "github.com/utrack/clay/transport/httpruntime",
      ".MarshalerForRequest(r)"],
    join [
      ["\t\tif err := ", p.use "github.com/pkg/errors", ".Wrap(inbound.Unmarshal(r.Body, "],
      target,
      ["), \"couldn't read request JSON\"); err != nil \x7b"]],
    ["\t\t\treturn ", p.use "github.com/utrack/clay/transport/httpruntime",
      ".TransformUnmarshalerError(err)"],
    ["\t\t\x7d"]]

/-- What an unmarshaler does about the body of a request, by what the binding names for it. -/
inductive ReadsBody (p : Parameters) : Json → List Piece → Prop where
  /-- Where nothing is named no body is read. -/
  | nothing {body : Json} (h : body.isTruthy = false) : ReadsBody p body []
  /-- A star is the whole request. -/
  | whole : ReadsBody p (.str "*") (readInto p ["req"])
  /-- Anything else is the field with that name. -/
  | field {body : Json} (h : body.isTruthy = true) (hstar : body ≠ .str "*") :
    ReadsBody p body (readInto p ["&req.", body])

/-- A block declares the pattern and the unmarshaler of a route: the pattern is the path of the
route, and the unmarshaler reads a request of the type that the method takes, first its body as the
binding says and then the query. The block declares nothing else and refers to nothing. -/
structure Declares (p : Parameters) (r : Route) (block : List Piece) : Prop where
  /-- What is declared, in order. -/
  declared : declared block = [r.pattern, r.unmarshaler]
  /-- Nothing is referred to. -/
  referred : referred block = []
  /-- The pattern is the path of the route. -/
  path : lines [
    ["var ("],
    ["\t", .declares r.pattern, " = ", .literal ("\"" ++ r.bound.rule.path.display ++ "\"")],
    [")"]] <:+: block
  /-- The unmarshaler names the type that the method takes, and nothing but what reads the body
  stands between that line and the query. -/
  reads : ∃ line body, Piece.render line = "\t\treq := rif.(*" ++ requestType p r ++ ")" ∧
    ReadsBody p r.bound.rule.body body ∧
    lines [
      ["func ", .declares r.unmarshaler, "(r *", p.use "net/http",
        ".Request) func(interface\x7b\x7d) error \x7b"],
      ["\treturn func(rif interface\x7b\x7d) error \x7b"],
      line] ++
    body ++
    lines [
      [],
      ["\t\tif err := ", p.use "github.com/pkg/errors", ".Wrap(",
        p.use "github.com/grpc-ecosystem/grpc-gateway/runtime",
        ".PopulateQueryParameters(req, r.URL.Query(), nil), ",
        "\"couldn't populate query parameters\"); err != nil \x7b"],
      ["\t\t\treturn ", p.use "github.com/utrack/clay/transport/httpruntime",
        ".TransformUnmarshalerError(err)"],
      ["\t\t\x7d"]] <:+: block

/-- The type of a request as the file sees it. -/
theorem render_typeOf (p : Parameters) (r : Route) :
    Piece.render (p.typeOf [] r.bound.method.request) = requestType p r := by
  unfold Parameters.typeOf Message.typeFrom requestType
  simp only
  split <;> simp [Piece.render, Piece.toText]

theorem readsBody_bodyBlock (p : Parameters) (rule : HttpRule) :
    ReadsBody p rule.body (bodyBlock p.use rule) := by
  unfold bodyBlock
  simp only
  by_cases hbody : rule.body.isTruthy
  · rw [if_pos hbody]
    by_cases hstar : rule.body = .str "*"
    · rw [hstar]
      exact .whole
    · have htarget : bodyTarget rule.body = (["&req.", rule.body] : List Piece) := by
        unfold bodyTarget
        split
        · exact absurd ‹_› hstar
        · rfl
      rw [htarget]
      exact .field hbody hstar
  · rw [if_neg hbody]
    exact .nothing (Bool.eq_false_iff.mpr hbody)

theorem ReadsBody.referred_eq {body : Json} (h : ReadsBody p body block) : referred block = [] := by
  cases h with
  | nothing => rfl
  | whole => rfl
  | field => rfl

theorem referred_declarationBlock {requestType : List Piece} (h : referred requestType = []) :
    referred (declarationBlock p.use requestType r) = [] := by
  simp [declarationBlock, patternLines, unmarshalerBlock, signatureLines, queryLines,
    (readsBody_bodyBlock p r.bound.rule).referred_eq, h]

theorem declares_declarationBlock (p : Parameters) (r : Route) :
    Declares p r (declarationBlock p.use (p.typeOf [] r.bound.method.request) r) where
  declared := declared_declarationBlock (Message.declared_typeFrom ..)
  referred := referred_declarationBlock (Message.referred_typeFrom ..)
  path := (Piece.infix_join (by simp) : lines (patternLines r) <:+: declarationBlock p.use _ r)
  reads := by
    have hblock : unmarshalerBlock p.use (p.typeOf [] r.bound.method.request) r <:+:
        declarationBlock p.use (p.typeOf [] r.bound.method.request) r :=
      Piece.infix_join (by simp)
    refine ⟨_, bodyBlock p.use r.bound.rule, ?_, readsBody_bodyBlock p r.bound.rule,
      (List.prefix_append _ _).isInfix.trans hblock⟩
    rw [← render_typeOf]
    simp [Piece.render, Piece.toText, join]

/-! ## The layout -/

/-- What the names of patterns and of unmarshalers start with. -/
def starts : List Text := ["pattern_goclay_", "unmarshaler_goclay_"]

theorem Route.pattern_starts (r : Route) :
    (Text.ofString "pattern_goclay_").isPrefixOf r.pattern = true :=
  List.isPrefixOf_iff_prefix.mpr (List.prefix_append _ _)

/-- Pieces that have no part in the routes: they neither declare a name of theirs nor refer to one.
-/
def RouteFree (pieces : List Piece) : Prop :=
  ∀ start ∈ starts, declaredFrom start pieces = [] ∧ referredFrom start pieces = []

/-- How the blocks of a wiring follow one another. -/
structure Laid (p : Parameters) (ps above : List Piece) (head : Service → List Piece)
    (handler declaration : Route → List Piece) : Prop where
  /-- The services follow on what comes above, each with the handlers of its own routes between its
  head and a brace, and the declarations of all routes follow on the services. -/
  pieces : ps = above ++
    p.file.services.flatMap (fun s => head s ++ (routes s).flatMap handler ++ lines [["\x7d"]]) ++
    (routesOf p.file).flatMap declaration
  /-- What comes above has no part in the routes. -/
  aboveFree : RouteFree above
  /-- The head of a service has none either. -/
  headFree : ∀ s, RouteFree (head s)
  /-- The handlers of a service stand in its own `RegisterHTTP`. -/
  opens : ∀ s : Service, lines [
    ["// RegisterHTTP registers this service's HTTP handlers/bindings."],
    ["func (d *", s.name, "Desc) RegisterHTTP(mux ", p.use "github.com/utrack/clay/transport",
      ".Router) \x7b"],
    ["\tchiMux, isChi := mux.(", p.use "github.com/go-chi/chi", ".Router)"]] <:+ head s
  /-- Each handler block is that of its route. -/
  handles : ∀ r, Handles r (handler r)
  /-- Each declaration block is that of its route. -/
  declares : ∀ r, Declares p r (declaration r)

/-- Pieces whose names all are variables of embedded documents have no part in the routes. -/
theorem routeFree_of_variables
    (h : ∀ name ∈ declared block ++ referred block, ∃ file, name = swaggerVariable file) :
    RouteFree block := by
  have hother : ∀ start ∈ starts, ∀ name ∈ declared block ++ referred block,
      ¬ start.isPrefixOf name = true := by
    intro start hstart name hname
    obtain ⟨file, rfl⟩ := h name hname
    rcases List.mem_pair.mp hstart with rfl | rfl
    · exact Bool.false_ne_true
    · exact Bool.false_ne_true
  intro start hstart
  exact ⟨List.filter_eq_nil_iff.mpr fun name hname =>
      hother start hstart name (List.mem_append_left _ hname),
    List.filter_eq_nil_iff.mpr fun name hname =>
      hother start hstart name (List.mem_append_right _ hname)⟩

theorem referred_header (p : Parameters) : referred (header p) = [] := by
  simp [header, Parameters.importLines]

theorem referred_embedding {file : Text} {embedded? : Option Text} {declaration : List Piece}
    (h : embedding p file = .ok (embedded?, declaration)) :
    referred declaration = [] := by
  unfold embedding at h
  split at h
  · cases h
    rfl
  · simp only at h
    split at h
    · cases h
    · cases h
      rfl

theorem names_serviceHead (embedded? : Option Text) (s : Service) {name : Text}
    (h : name ∈ declared (serviceHead p.use embedded? s) ++
      referred (serviceHead p.use embedded? s)) : name ∈ embedded? := by
  cases embedded? with
  | none => simp [serviceHead, registerLines, swaggerBody] at h
  | some embedded => simpa [serviceHead, registerLines, swaggerBody, eq_comm] using h

theorem exists_embedding_iff (file : Text) :
    (∃ embedded, embedding p file = .ok embedded) ↔
      ∃ t, Utf8.decode (p.swagger?.getD []) = .ok t := by
  unfold embedding
  cases hoctets : p.swagger?.getD [] with
  | nil => exact ⟨fun _ => ⟨[], rfl⟩, fun _ => ⟨_, rfl⟩⟩
  | cons b octets =>
    simp only [Go.rawLiteralOfOctets]
    cases Utf8.decode (b :: octets) with
    | error e => exact ⟨nofun, nofun⟩
    | ok t => exact ⟨fun _ => ⟨t, rfl⟩, fun _ => ⟨_, rfl⟩⟩

/-- A wiring can be written if the file has a text for its name and the document is in UTF-8. -/
theorem exists_pieces_iff : (∃ ps, pieces p = .ok ps) ↔
    (∃ file, p.file.name = .str file) ∧ ∃ t, Utf8.decode (p.swagger?.getD []) = .ok t := by
  constructor
  · rintro ⟨ps, hps⟩
    obtain ⟨file, embedded?, declaration, hname, hembedding, -⟩ := exists_embedded hps
    exact ⟨⟨file, hname⟩, (exists_embedding_iff file).mp ⟨_, hembedding⟩⟩
  · rintro ⟨⟨file, hname⟩, hdecode⟩
    obtain ⟨embedded, hembedding⟩ := (exists_embedding_iff file).mpr hdecode
    unfold pieces
    rw [hname]
    simp only
    rw [hembedding]
    exact ⟨_, rfl⟩

theorem source_eq_ok_iff {text : Text} :
    source p = .ok text ↔ ∃ ps, pieces p = .ok ps ∧ text = Piece.render ps := by
  unfold source
  cases pieces p with
  | error e => exact ⟨nofun, nofun⟩
  | ok ps =>
    constructor
    · intro h
      exact ⟨ps, rfl, (Except.ok.inj h).symm⟩
    · rintro ⟨ps', hps, rfl⟩
      exact congrArg (Except.map Piece.render) hps

theorem exists_laid (h : pieces p = .ok ps) :
    ∃ above head handler declaration, Laid p ps above head handler declaration := by
  obtain ⟨file, embedded?, declaration, -, hembedding, rfl⟩ := exists_embedded h
  obtain ⟨hdeclared, hvariable⟩ := declared_embedding hembedding
  refine ⟨header p ++ declaration, serviceHead p.use embedded?, handlerBlock p.use, fun r =>
    declarationBlock p.use (p.typeOf [] r.bound.method.request) r, ?_, ?_, fun s => ?_, fun s => ?_,
    handles_handlerBlock p, declares_declarationBlock p⟩
  · unfold declarations routesOf
    rw [List.flatMap_assoc]
    rfl
  · refine routeFree_of_variables fun name hname => ⟨file, ?_⟩
    simp only [Piece.declared_append, Piece.referred_append, declared_header, referred_header,
      referred_embedding hembedding, hdeclared, List.nil_append, List.append_nil] at hname
    exact hvariable name (Option.mem_toList.mp hname)
  · exact routeFree_of_variables fun name hname =>
      ⟨file, hvariable name (names_serviceHead embedded? s hname)⟩
  · exact List.suffix_append _ (lines (registerLines p.use s))

/-! ## Names -/

section Names

variable {above : List Piece} {head : Service → List Piece}
  {handler declaration : Route → List Piece}

/-- What the source refers to under one of the starts is what its handlers refer to under it. -/
theorem Laid.referredFrom_eq (h : Laid p ps above head handler declaration) {start : Text}
    (hstart : start ∈ starts) {names : Route → List Text}
    (hnames : ∀ r : Route,
      [r.unmarshaler, r.pattern, r.pattern].filter start.isPrefixOf = names r) :
    referredFrom start ps = (routesOf p.file).flatMap names := by
  have hhandler (r : Route) : referredFrom start (handler r) = names r := by
    unfold referredFrom
    rw [(h.handles r).referred, hnames]
  have hdeclarations : referredFrom start ((routesOf p.file).flatMap declaration) = [] := by
    rw [Piece.referredFrom_flatMap, List.flatMap_eq_nil_iff]
    intro r _
    unfold referredFrom
    rw [(h.declares r).referred, List.filter_nil]
  have hservice (s : Service) :
      referredFrom start (head s ++ (routes s).flatMap handler ++ lines [["\x7d"]]) =
        (routes s).flatMap names := by
    rw [Piece.referredFrom_append, Piece.referredFrom_append, (h.headFree s start hstart).2,
      Piece.referredFrom_flatMap, List.nil_append]
    simp only [hhandler]
    exact List.append_nil _
  rw [h.pieces, Piece.referredFrom_append, Piece.referredFrom_append,
    (h.aboveFree start hstart).2, Piece.referredFrom_flatMap, hdeclarations, List.nil_append,
    List.append_nil]
  simp only [hservice]
  exact List.flatMap_assoc.symm

theorem Laid.referredFrom_unmarshaler (h : Laid p ps above head handler declaration) :
    referredFrom "unmarshaler_goclay_" ps = (routesOf p.file).map Route.unmarshaler := by
  rw [List.map_eq_flatMap]
  refine h.referredFrom_eq (by simp [starts]) fun r => ?_
  have hunmarshaler : (Text.ofString "unmarshaler_goclay_").isPrefixOf r.unmarshaler :=
    List.isPrefixOf_iff_prefix.mpr (List.prefix_append _ _)
  rw [List.filter_cons_of_pos hunmarshaler]
  rfl

theorem Laid.referredFrom_pattern (h : Laid p ps above head handler declaration) :
    referredFrom "pattern_goclay_" ps =
      (routesOf p.file).flatMap fun r => [r.pattern, r.pattern] := by
  refine h.referredFrom_eq (by simp [starts]) fun r => ?_
  have hunmarshaler : (Text.ofString "pattern_goclay_").isPrefixOf r.unmarshaler = false := rfl
  rw [List.filter_cons_of_neg (by simp [hunmarshaler]), List.filter_cons_of_pos r.pattern_starts,
    List.filter_cons_of_pos r.pattern_starts]
  rfl

end Names

/-- The bound methods of a service are its methods that have a binding, each with it. -/
theorem methods_boundMethods (s : Service) :
    s.boundMethods.map (fun b => (b.method, some b.rule)) =
      (s.methods.filter (·.http?.isSome)).map fun m => (m, m.http?) := by
  unfold Service.boundMethods
  induction s.methods with
  | nil => rfl
  | cons m ms ih =>
    cases hm : m.http? with
    | none => simp [hm, ih]
    | some rule => simp [hm, ih]

/-- So are its routes. -/
theorem methods_routes (s : Service) :
    (routes s).map (fun r => (r.bound.method, some r.bound.rule)) =
      (s.methods.filter (·.http?.isSome)).map fun m => (m, m.http?) := by
  rw [← methods_boundMethods, ← bound_routes, List.map_map]
  rfl

/-- The routes of a file are the methods of its services that have a binding, as declared. -/
theorem methods_routesOf (d : Descriptor) :
    (routesOf d).map (fun r => (r.service, r.bound.method)) =
      d.services.flatMap fun s => (s.methods.filter (·.http?.isSome)).map fun m => (s, m) := by
  unfold routesOf
  rw [List.map_flatMap]
  refine List.flatMap_congr fun s _ => ?_
  have hmethods := congrArg (List.map fun m => (s, m.1)) (methods_routes s)
  rw [List.map_map, List.map_map] at hmethods
  refine .trans (List.map_congr_left fun r hr => ?_) hmethods
  rw [service_of_mem_routes hr]
  rfl

/-- **Handlers and declarations match.** A wiring can be written whenever the file has a text for
its name and the document is in UTF-8. It is laid out as the services, each with one handler block
for each of its bound methods in its own `RegisterHTTP`, and then one declaration block for each
bound method, all in the order of the file; nothing else has a part in the routes. The handlers
refer to the declared unmarshalers one by one, and to each declared pattern for either kind of
router, in the order of the declarations. -/
theorem handlers_match_declarations (p : Parameters) :
    ((∃ text, source p = .ok text) ↔
        (∃ file, p.file.name = .str file) ∧ ∃ t, Utf8.decode (p.swagger?.getD []) = .ok t) ∧
      (∀ text, source p = .ok text → ∃ ps, text = Piece.render ps ∧
        (∃ above head handler declaration, Laid p ps above head handler declaration) ∧
        referredFrom "unmarshaler_goclay_" ps = declaredFrom "unmarshaler_goclay_" ps ∧
        referredFrom "pattern_goclay_" ps =
          (declaredFrom "pattern_goclay_" ps).flatMap fun name => [name, name]) ∧
      (∀ s, (routes s).map (fun r => (r.bound.method, some r.bound.rule)) =
          (s.methods.filter (·.http?.isSome)).map (fun m => (m, m.http?)) ∧
        ∀ r ∈ routes s, r.service = s) ∧
      (routesOf p.file).map (fun r => (r.service, r.bound.method)) =
        p.file.services.flatMap (fun s =>
          (s.methods.filter (·.http?.isSome)).map fun m => (s, m)) ∧
      ∀ verb : Verb, verb.toUpper = verb.toText.map CodePoint.toUpper := by
  refine ⟨?_, fun text htext => ?_, fun s =>
    ⟨methods_routes s, fun r => service_of_mem_routes⟩, methods_routesOf p.file, Verb.toUpper_eq⟩
  · rw [← exists_pieces_iff]
    simp only [source_eq_ok_iff]
    exact ⟨fun ⟨_, ps, hps, _⟩ => ⟨ps, hps⟩, fun ⟨ps, hps⟩ => ⟨_, ps, hps, rfl⟩⟩
  · obtain ⟨ps, hps, rfl⟩ := source_eq_ok_iff.mp htext
    obtain ⟨above, head, handler, declaration, hlaid⟩ := exists_laid hps
    refine ⟨ps, rfl, ⟨above, head, handler, declaration, hlaid⟩, ?_, ?_⟩
    · rw [hlaid.referredFrom_unmarshaler, declaredFrom_unmarshaler hps]
    · rw [hlaid.referredFrom_pattern, declaredFrom_pattern hps, List.flatMap_map]

/-! ## Bodies -/

theorem ReadsBody.eq_whole (h : ReadsBody p (.str "*") block) : block = readInto p ["req"] := by
  cases h with
  | nothing h => exact absurd h Bool.true_eq_false.mp
  | whole => rfl
  | field _ hstar => exact absurd rfl hstar

theorem ReadsBody.eq_field {body : Json} (h : ReadsBody p body block)
    (hbody : body.isTruthy = true) (hstar : body ≠ .str "*") :
    block = readInto p ["&req.", body] := by
  cases h with
  | nothing h => exact absurd hbody (Bool.eq_false_iff.mp h)
  | whole => exact absurd rfl hstar
  | field => rfl

/-- A wiring names the type of the requests of each of its routes, and reads their bodies. -/
theorem Laid.reads {above : List Piece} {head : Service → List Piece}
    {handler declaration : Route → List Piece} (h : Laid p ps above head handler declaration)
    (hr : r ∈ routesOf p.file) :
    ∃ line body, Piece.render line = "\t\treq := rif.(*" ++ requestType p r ++ ")" ∧
      line <:+: ps ∧ ReadsBody p r.bound.rule.body body ∧ body <:+: ps := by
  obtain ⟨line, body, hline, hbody, hinfix⟩ := (h.declares r).reads
  have hblock : declaration r <:+: ps := by
    rw [h.pieces]
    exact (Piece.infix_flatMap declaration hr).trans (List.suffix_append _ _).isInfix
  have hlines := hinfix.trans hblock
  refine ⟨line, body, hline, ?_, hbody, (List.infix_append _ _ _).trans hlines⟩
  refine (Piece.infix_lines ?_).trans ((List.prefix_append _ _).isInfix.trans
    ((List.prefix_append _ _).isInfix.trans hlines))
  simp

/-- A file with a method that takes the whole body and one that takes a field, whose request comes
from elsewhere. Between them stands a method without a binding; a second service has no methods. -/
def interleaved : Descriptor where
  name := .str "a/b.proto"
  package := { path := "x/y", name := "y" }
  services := [⟨.str "A", [
    { boundMethod "B" with http? := some ⟨.post, .str "/b", .str "*"⟩ },
    { boundMethod "P" with http? := none },
    { boundMethod "C" with
      request := ⟨.str "Big", { path := "v/w", name := "w" }⟩
      http? := some ⟨.post, .str "/c", .str "name"⟩ }]⟩, ⟨.str "D", []⟩]

theorem handlers_match_declarations_interleaved :
    interleaved.boundMethods.map (·.2.method.name.display) = ["B", "C"] ∧
      ∃ text ps, source { file := interleaved } = .ok text ∧ text = Piece.render ps ∧
        referredFrom "unmarshaler_goclay_" ps = declaredFrom "unmarshaler_goclay_" ps ∧
        referredFrom "pattern_goclay_" ps =
          (declaredFrom "pattern_goclay_" ps).flatMap (fun name => [name, name]) ∧
        (∃ line, Piece.render line = "\t\treq := rif.(*Req)" ∧ line <:+: ps) ∧
        readInto { file := interleaved } ["req"] <:+: ps ∧
        (∃ line, Piece.render line = "\t\treq := rif.(*w.Big)" ∧ line <:+: ps) ∧
        readInto { file := interleaved } ["&req.", "name"] <:+: ps := by
  obtain ⟨hwritten, hmatch, -⟩ := handlers_match_declarations { file := interleaved }
  obtain ⟨text, htext⟩ := hwritten.mpr ⟨⟨"a/b.proto", rfl⟩, ⟨[], rfl⟩⟩
  obtain ⟨ps, hps, ⟨_, _, _, _, hlaid⟩, hunmarshaler, hpattern⟩ := hmatch text htext
  have hroutes : ∃ b c, routesOf interleaved = [b, c] ∧ b.bound.rule.body = .str "*" ∧
      requestType { file := interleaved } b = "Req" ∧ c.bound.rule.body = .str "name" ∧
      requestType { file := interleaved } c = "w.Big" := ⟨_, _, rfl, rfl, rfl, rfl, rfl⟩
  obtain ⟨b, c, hroutes, hb, hbtype, hc, hctype⟩ := hroutes
  obtain ⟨bline, bbody, hbline, hbinfix, hbreads, hbbody⟩ :=
    hlaid.reads (r := b) (hroutes ▸ List.mem_cons_self)
  obtain ⟨cline, cbody, hcline, hcinfix, hcreads, hcbody⟩ :=
    hlaid.reads (r := c) (hroutes ▸ List.mem_cons_of_mem _ List.mem_cons_self)
  rw [hb] at hbreads
  rw [hc] at hcreads
  refine ⟨rfl, text, ps, htext, hps, hunmarshaler, hpattern, ⟨bline, ?_, hbinfix⟩,
    hbreads.eq_whole ▸ hbbody, ⟨cline, ?_, hcinfix⟩, hcreads.eq_field rfl nofun ▸ hcbody⟩
  · rw [hbline, hbtype]
    rfl
  · rw [hcline, hctype]
    rfl

end Wiring

end ServiceWiring
