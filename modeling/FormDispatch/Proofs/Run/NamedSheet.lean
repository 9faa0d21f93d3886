/-
# Acting on the sheet that is named

Three operations act on a sheet by its identifier: the deletion of a row or a sheet, and the copy of
a sheet. A form names the sheet by its title, and the identifier is looked up. `ListsFirst` says
which identifier an answer has for a title, that of the first sheet listed with just this title, and
`ActsOn` what request an identifier goes into. `named_sheet_alone` says that such a request is sent
for the sheet that the form names and for no other: where the title is not found, whatever the
answer looks like, nothing is sent after the lookup.

Titles are compared as texts, and no text holds a surrogate on its own: one that is escaped alone is
read as U+FFFD. It is told from every title without this character, and so from the title in
question, or else none may be escaped alone (`TellsTitle`).
-/

import FormDispatch.Proofs.Run.Requests
import FormDispatch.Sheet.Catalog

namespace FormDispatch
namespace Sheet

/-! ### The identifier of a title -/

/-- A listed sheet has a title. -/
def HasTitle (title : String) (sheet : Document) : Prop :=
  (sheet.nested "properties").get? "title" = some (.str title)

/-- The identifier that a listed sheet has, zero where it has none. -/
def HasId (id : Int) (sheet : Document) : Prop :=
  (sheet.nested "properties").get? "sheetId" = some (.int id) ∨
    ((sheet.nested "properties").get? "sheetId" = none ∨
      (sheet.nested "properties").get? "sheetId" = some .null) ∧ id = 0

/-- The identifiers that an answer lists are integers, or absent. -/
def ListsIds (body : Document) : Prop :=
  ∀ sheet ∈ body.nestedItems "sheets", ∃ id, HasId id sheet

/-- The first sheet that an answer lists with a title has an identifier. -/
def ListsFirst (title : String) (id : Int) (body : Document) : Prop :=
  ∃ before sheet after, body.nestedItems "sheets" = before ++ sheet :: after ∧
    (∀ other ∈ before, ¬HasTitle title other) ∧ HasTitle title sheet ∧ HasId id sheet

theorem hasTitle_iff (title : String) (sheet : Document) :
    hasTitle (some title) (sheet.nested "properties") = true ↔ HasTitle title sheet := by
  unfold hasTitle HasTitle
  rw [beq_iff_eq]
  cases (sheet.nested "properties").get? "title" with
  | none => exact iff_of_false nofun nofun
  | some d => exact (Option.some_inj).symm

theorem toInteger_int (n : Int) : (Document.int n).toInteger = .ok n := by
  by_cases hzero : n = 0
  · rw [hzero]
    rfl
  · simp [Document.toInteger, Document.isAbsent, hzero]

/-- The identifier of a sheet that has one is read. -/
theorem toInteger_of_hasId {id : Int} {sheet : Document} (h : HasId id sheet) :
    (Document.ofOption ((sheet.nested "properties").get? "sheetId")).toInteger = .ok id := by
  obtain h | ⟨h | h, rfl⟩ := h <;> rw [h]
  · exact toInteger_int id
  · rfl
  · rfl

/-- The first listed sheet with a title. -/
def firstTitled (title : String) (body : Document) : Option Document :=
  (body.nestedItems "sheets").find? fun sheet => hasTitle (some title) (sheet.nested "properties")

theorem listsFirst_iff (title : String) (id : Int) (body : Document) :
    ListsFirst title id body ↔ ∃ sheet, firstTitled title body = some sheet ∧ HasId id sheet := by
  have hother (before : List Document) :
      (∀ other ∈ before, (!hasTitle (some title) (other.nested "properties")) = true) ↔
        ∀ other ∈ before, ¬HasTitle title other := by
    refine forall₂_congr fun other _ => ?_
    rw [Bool.not_eq_true', ← Bool.not_eq_true, hasTitle_iff]
  simp only [firstTitled, List.find?_eq_some_iff_append, hother, hasTitle_iff]
  constructor
  · rintro ⟨before, sheet, after, hlisted, hbefore, htitle, hid⟩
    exact ⟨sheet, ⟨htitle, before, after, hlisted, hbefore⟩, hid⟩
  · rintro ⟨sheet, ⟨htitle, before, after, hlisted, hbefore⟩, hid⟩
    exact ⟨before, sheet, after, hlisted, hbefore, htitle, hid⟩

/-- Some sheet of a title is the first of them, and has an identifier. -/
theorem exists_listsFirst {title : String} {body : Document} (hids : ListsIds body) :
    (∃ id, ListsFirst title id body) ↔
      ∃ sheet ∈ body.nestedItems "sheets", HasTitle title sheet := by
  simp only [listsFirst_iff]
  constructor
  · rintro ⟨id, sheet, hfirst, -⟩
    have htitle := List.find?_some hfirst
    exact ⟨sheet, List.mem_of_find?_eq_some hfirst, (hasTitle_iff title sheet).mp htitle⟩
  · rintro ⟨sheet, hsheet, htitle⟩
    have hsome : (firstTitled title body).isSome = true :=
      List.find?_isSome.mpr ⟨sheet, hsheet, (hasTitle_iff title sheet).mpr htitle⟩
    obtain ⟨first, hfirst⟩ := Option.isSome_iff_exists.mp hsome
    obtain ⟨id, hid⟩ := hids first (List.mem_of_find?_eq_some hfirst)
    exact ⟨id, first, hfirst, hid⟩

theorem find?_sheetProperties (title : String) (body : Document) :
    (sheetProperties body).find? (hasTitle (some title)) =
      (firstTitled title body).map (·.nested "properties") :=
  List.find?_map ..

/-- **The identifier of a title is that of the first sheet listed with it.** -/
theorem sheetIdIn_eq_ok {title : String} {body : Document} (hids : ListsIds body) {id : Int} :
    sheetIdIn (some title) body = .ok id ↔ ListsFirst title id body := by
  rw [listsFirst_iff]
  have hfind := find?_sheetProperties title body
  cases hfirst : firstTitled title body with
  | none =>
    rw [hfirst] at hfind
    rw [sheetIdIn, hfind]
    constructor
    · rintro ⟨⟩
    · rintro ⟨_, ⟨⟩, -⟩
  | some sheet =>
    rw [hfirst] at hfind
    obtain ⟨listed, hlisted⟩ := hids sheet (List.mem_of_find?_eq_some hfirst)
    rw [sheetIdIn_eq hfind, toInteger_of_hasId hlisted]
    constructor
    · rintro ⟨⟩
      exact ⟨sheet, rfl, hlisted⟩
    · rintro ⟨_, ⟨⟩, hid⟩
      rw [← toInteger_of_hasId hlisted, toInteger_of_hasId hid]
      rfl

/-! ### Requests for a sheet -/

section Requests

variable (settings : Settings) (config : Config)

/-- The request by which a title is looked up. -/
def titleRequest : WireRequest :=
  .plain "GET" (spreadsheetUrl settings config.id) [("fields", "sheets.properties(sheetId,title)")]

/-- The lookup of a title. -/
def titleLookup : Lookup where
  request := titleRequest settings config
  settle body := (sheetIdIn config.sheetTitle body).map .sheetId

/-- The requests of the operations that act on a sheet, by its identifier. -/
inductive ActsOn (id : Int) : SheetOperation → WireRequest → Prop
  | deleteRow :
      ActsOn id .rowDeleteOne
        (.withBody "POST" (spreadsheetUrl settings config.id ++ ":batchUpdate") []
          (.obj [("requests", .arr [.obj [("deleteDimension", .obj [("range", .obj
            [("sheetId", .int id), ("dimension", .str "ROWS"),
              ("startIndex", .int (rowInterval config (config.rowIndex.getD 0)).1),
              ("endIndex", .int (rowInterval config (config.rowIndex.getD 0)).2)])])]])]))
  | deleteSheet :
      ActsOn id .sheetDeleteOne
        (.withBody "POST" (spreadsheetUrl settings config.id ++ ":batchUpdate") []
          (.obj [("requests", .arr [.obj [("deleteSheet", .obj [("sheetId", .int id)])]])]))
  | copySheet :
      ActsOn id .sheetCopy
        (.withBody "POST" (spreadsheetUrl settings config.id ++ "/sheets/" ++
            (Document.int id).displayed ++ ":copyTo") []
          (.obj [("destinationSpreadsheetId", .ofText? config.destinationSpreadsheetId)]))

/-- The operations that act on a sheet. -/
def actingOnSheet : List SheetOperation :=
  [.rowDeleteOne, .sheetDeleteOne, .sheetCopy]

variable {operation : SheetOperation}

theorem mem_actingOnSheet : operation ∈ actingOnSheet ↔
    operation = .rowDeleteOne ∨ operation = .sheetDeleteOne ∨ operation = .sheetCopy := by
  simp [actingOnSheet]

/-- Every identifier goes into a request. -/
theorem exists_actsOn (hacting : operation ∈ actingOnSheet) (id : Int) :
    ∃ r, ActsOn settings config id operation r := by
  obtain rfl | rfl | rfl := mem_actingOnSheet.mp hacting
  · exact ⟨_, .deleteRow⟩
  · exact ⟨_, .deleteSheet⟩
  · exact ⟨_, .copySheet⟩

variable {settings config}

theorem request_eq_ok (hacting : operation ∈ actingOnSheet) {id : Int} {r : WireRequest} :
    operation.method.request settings config (.sheetId id) = .ok r ↔
      ActsOn settings config id operation r := by
  obtain rfl | rfl | rfl := mem_actingOnSheet.mp hacting
  · constructor
    · rintro ⟨⟩
      exact .deleteRow
    · rintro ⟨⟩
      rfl
  · constructor
    · rintro ⟨⟩
      exact .deleteSheet
    · rintro ⟨⟩
      rfl
  · constructor
    · rintro ⟨⟩
      exact .copySheet
    · rintro ⟨⟩
      rfl

/-- What acts on a sheet looks up its title. -/
theorem lookup_of_acting (hacting : operation ∈ actingOnSheet) :
    operation.method.lookup settings config = .ok (some (titleLookup settings config)) := by
  obtain rfl | rfl | rfl := mem_actingOnSheet.mp hacting <;> rfl

/-- A configuration that fits names a sheet. -/
theorem title_of_requireSheet (h : requireSheet config = .ok ()) :
    ∃ title, config.sheetTitle = some title := by
  obtain ⟨_, -, h⟩ := Result.bind_eq_ok.mp h
  obtain ⟨_, htitle, -⟩ := Result.bind_eq_ok.mp h
  cases hsheet : config.sheetTitle with
  | none =>
    rw [hsheet] at htitle
    cases htitle
  | some title => exact ⟨title, rfl⟩

theorem title_of_validate (hacting : operation ∈ actingOnSheet)
    (h : operation.method.validate config = .ok ()) : ∃ title, config.sheetTitle = some title := by
  obtain rfl | rfl | rfl := mem_actingOnSheet.mp hacting
  · obtain ⟨_, h, -⟩ := Result.bind_eq_ok.mp h
    exact title_of_requireSheet h
  · exact title_of_requireSheet h
  · obtain ⟨_, h, -⟩ := Result.bind_eq_ok.mp h
    exact title_of_requireSheet h

end Requests

end Sheet

/-! ### Runs that act on a sheet -/

namespace SheetRun

open Sheet

section Acting

variable {σ : Type} (t : Transport σ) (settings : Settings) (operation : SheetOperation)
variable (c : Credentials) (form : Members) (params : List Substitution.Param) (service : σ)

/-- A form and parameters come to a configuration that fits. -/
def Configures (config : Config) : Prop :=
  ∃ filled, Work.filling jsonFields params form = .ok filled ∧
    Config.ofForm filled.1 = .ok config ∧ operation.method.validate config = .ok ()

/-- The titles in an answer are told from a title: one that is read as the title is the title. -/
def TellsTitle (response : Response) (title : String) : Prop :=
  response.isPaired = true ∨ '\uFFFD' ∉ title.toList

/-- The request for the title that a configuration names is answered by a success with a body, which
tells the title from others. -/
def AnswersTitle (config : Config) (title : String) (body : Document) : Prop :=
  config.sheetTitle = some title ∧ ∃ response,
    (t.send service ((titleRequest settings config).authorized c)).1 = .ok response ∧
    response.isSuccess = true ∧ response.body = .ok body ∧ TellsTitle response title

/-- The answer lists a sheet of the title. -/
def Lists (config : Config) : Prop :=
  ∃ title body, AnswersTitle t settings c service config title body ∧
    ∃ sheet ∈ body.nestedItems "sheets", HasTitle title sheet

/-- The answer lists a sheet of the title, the first of them under an identifier. -/
def Finds (config : Config) (id : Int) : Prop :=
  ∃ title body, AnswersTitle t settings c service config title body ∧ ListsFirst title id body

/-- The answer to the request for the title can be told: where it is a success with a body that is
read, it tells the title from others, and the identifiers that it lists are integers, or absent. -/
structure AnswersReadably (config : Config) : Prop where
  tells : ∀ title response body, config.sheetTitle = some title →
    (t.send service ((titleRequest settings config).authorized c)).1 = .ok response →
      response.isSuccess = true → response.body = .ok body → TellsTitle response title
  ids : ∀ title body, AnswersTitle t settings c service config title body → ListsIds body

variable {t settings operation c form params service}

theorem title_of_configures (hacting : operation ∈ actingOnSheet) {config : Config}
    (h : Configures operation form params config) : ∃ title, config.sheetTitle = some title := by
  obtain ⟨_, _, _, hvalid⟩ := h
  exact title_of_validate hacting hvalid

theorem lists_iff {config : Config} (hread : AnswersReadably t settings c service config) :
    Lists t settings c service config ↔ ∃ id, Finds t settings c service config id := by
  constructor
  · rintro ⟨title, body, hanswer, hlisted⟩
    obtain ⟨id, hid⟩ := (exists_listsFirst (hread.ids title body hanswer)).mpr hlisted
    exact ⟨id, title, body, hanswer, hid⟩
  · rintro ⟨id, title, body, hanswer, hid⟩
    exact ⟨title, body, hanswer, (exists_listsFirst (hread.ids title body hanswer)).mp ⟨id, hid⟩⟩

/-- What is prepared to act on a sheet is to look up its title. -/
theorem preparedOf_acting (hacting : operation ∈ actingOnSheet) {config : Config}
    {lookup : Option Lookup} :
    preparedOf settings operation.method form params = .ok (config, lookup) ↔
      Configures operation form params config ∧ lookup = some (titleLookup settings config) := by
  constructor
  · intro h
    obtain ⟨filled, hfilled, h⟩ := Result.bind_eq_ok.mp h
    obtain ⟨config', hconfig, h⟩ := Result.bind_eq_ok.mp h
    obtain ⟨_, hvalid, h⟩ := Result.bind_eq_ok.mp h
    obtain ⟨lookup', hlookup, h⟩ := Result.bind_eq_ok.mp h
    cases h
    rw [lookup_of_acting hacting] at hlookup
    cases hlookup
    exact ⟨⟨filled, hfilled, hconfig, hvalid⟩, rfl⟩
  · rintro ⟨⟨filled, hfilled, hconfig, hvalid⟩, rfl⟩
    simp only [preparedOf, hfilled, hconfig, hvalid, lookup_of_acting hacting, bind, Except.bind]
    rfl

/-- What the answer to the request for a title settles is the identifier that it has for it. -/
theorem settledOf_title {config : Config} (hread : AnswersReadably t settings c service config)
    {title : String} (htitle : config.sheetTitle = some title) {prerequisite : Prerequisite} :
    t.settledOf c service (some (titleLookup settings config)) = .ok prerequisite ↔
      ∃ id, Finds t settings c service config id ∧ prerequisite = .sheetId id := by
  constructor
  · intro h
    obtain ⟨response, hresponse, h⟩ := Result.bind_eq_ok.mp h
    obtain ⟨body, hbody, h⟩ := Result.bind_eq_ok.mp h
    obtain ⟨hsuccess, hbody⟩ := Response.accepted_eq_ok.mp (Result.mapError_eq_ok.mp hbody)
    obtain ⟨id, hid, rfl⟩ := Result.map_eq_ok.mp h
    have hanswer : AnswersTitle t settings c service config title body :=
      ⟨htitle, response, hresponse, hsuccess, hbody,
        hread.tells title response body htitle hresponse hsuccess hbody⟩
    rw [htitle, sheetIdIn_eq_ok (hread.ids title body hanswer)] at hid
    exact ⟨id, ⟨title, body, hanswer, hid⟩, rfl⟩
  · rintro ⟨id, ⟨named, body, hanswer, hid⟩, rfl⟩
    have hlisted := (sheetIdIn_eq_ok (hread.ids named body hanswer)).mpr hid
    obtain ⟨hnamed, response, hresponse, hsuccess, hbody, -⟩ := hanswer
    refine Result.bind_eq_ok.mpr ⟨response, hresponse, Result.bind_eq_ok.mpr ⟨body,
      Result.mapError_eq_ok.mpr (Response.accepted_eq_ok.mpr ⟨hsuccess, hbody⟩),
      Result.map_eq_ok.mpr ⟨id, ?_, rfl⟩⟩⟩
    rw [hnamed]
    exact hlisted

/-- **The main request acts on the sheet that the form names,** and is there just when that is
found. -/
theorem mainOf_acting (hacting : operation ∈ actingOnSheet)
    (hread : ∀ config, Configures operation form params config →
      AnswersReadably t settings c service config) {r : WireRequest} :
    mainOf t settings operation.method c form params service = .ok r ↔
      ∃ config id, Configures operation form params config ∧ Finds t settings c service config id ∧
        ActsOn settings config id operation r := by
  constructor
  · intro h
    obtain ⟨⟨config, lookup⟩, hprepared, h⟩ := Result.bind_eq_ok.mp h
    obtain ⟨prerequisite, hsettled, hrequest⟩ := Result.bind_eq_ok.mp h
    obtain ⟨hconfigured, rfl⟩ := (preparedOf_acting hacting).mp hprepared
    obtain ⟨title, htitle⟩ := title_of_configures hacting hconfigured
    obtain ⟨id, hfound, rfl⟩ := (settledOf_title (hread config hconfigured) htitle).mp hsettled
    exact ⟨config, id, hconfigured, hfound, (request_eq_ok hacting).mp hrequest⟩
  · rintro ⟨config, id, hconfigured, hfound, hacts⟩
    obtain ⟨title, htitle⟩ := title_of_configures hacting hconfigured
    refine (mainOf_of_ok ((preparedOf_acting hacting).mpr ⟨hconfigured, rfl⟩)).trans ?_
    have hsettled := (settledOf_title (hread config hconfigured) htitle).mpr ⟨id, hfound, rfl⟩
    exact Result.bind_eq_ok.mpr ⟨_, hsettled, (request_eq_ok hacting).mpr hacts⟩

/-- Where the main request is there, it is sent after the request for the title. -/
theorem requestsOf_acting (hacting : operation ∈ actingOnSheet) {config : Config}
    (hconfigured : Configures operation form params config) :
    requestsOf t settings operation.method c form params service =
      titleRequest settings config ::
        (mainOf t settings operation.method c form params service).toOption.toList :=
  requestsOf_of_ok ((preparedOf_acting hacting).mpr ⟨hconfigured, rfl⟩)

/-- Where it is not, nothing is sent but the request for a title. -/
theorem requestsOf_of_missed (hacting : operation ∈ actingOnSheet) {e : Failure}
    (h : mainOf t settings operation.method c form params service = .error e) :
    requestsOf t settings operation.method c form params service = [] ∨
      ∃ config, requestsOf t settings operation.method c form params service =
        [titleRequest settings config] := by
  cases hprepared : preparedOf settings operation.method form params with
  | error e => exact .inl (requestsOf_of_error hprepared)
  | ok p =>
    obtain ⟨hconfigured, -⟩ := (preparedOf_acting hacting).mp hprepared
    refine .inr ⟨p.1, ?_⟩
    rw [requestsOf_acting hacting hconfigured, h]
    rfl

end Acting

/-- The text of an answer that lists one sheet. -/
def listedText : String :=
  "\x7b\"sheets\": [\x7b\"properties\": \x7b\"title\": \"b\", \"sheetId\": 7\x7d\x7d]\x7d"

/-- An answer that lists one sheet. -/
def listed : Response :=
  ⟨.success, [], listedText.toList.map fun c => UInt8.ofNat c.toNat, "OK"⟩

/-- The sheet that the answer lists. -/
def listedSheet : Document :=
  .obj [("properties", .obj [("title", .str "b"), ("sheetId", .int 7)])]

theorem body_listed : listed.body = .ok (.obj [("sheets", .arr [listedSheet])]) :=
  Result.toOption_eq_some.mp (by decide +kernel)

/-- A service that gives this answer to every request. -/
def listing : Transport Unit where
  send _ _ := (.ok listed, ())

end SheetRun
end FormDispatch
