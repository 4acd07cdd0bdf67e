import EquityScreen.Proofs.PageOutline

/-! No text becomes markup. A response with a page is the outline of the page with its values
in the gaps, each of them escaped once, with and without a document around the page. An
error page is put together in the same way. Two screener pages of one layout therefore have
the same markup, whatever their texts. -/
namespace EquityScreen.Web

open Page

section Requested

variable {server : Server} {request : Request}

theorem screenedPage_eq (state : ScreenState) (stocks : List Stock) (pageSize : Nat) :
    ∃ alert results, screenedPage state stocks pageSize =
        { ScreenerPage.ofState state with alert, results } ∧
      ∀ r ∈ results, ∃ view, r = ResultsTable.ofView state view := by
  refine ⟨_, _, rfl, ?_⟩
  cases (screen stocks state.query.toList).stocks with
  | nil => exact fun r hr => by cases hr
  | cons s selected => exact fun r hr => ⟨_, (Option.some.inj hr).symm⟩

theorem regular_ofView (state : ScreenState) (view : TableView) :
    (ResultsTable.ofView state view).Regular where
  headers := List.length_map ..
  rows row hRow := by
    obtain ⟨s, -, rfl⟩ := List.mem_map.mp hRow
    rw [List.length_map, Stock.cells, List.length_map]

/-- A page carries the texts of a state, and its table has the columns that every table has. -/
structure Carries (state : ScreenState) (page : ScreenerPage) : Prop where
  query : page.query = state.query
  search : page.search = state.table.search
  sortFields : page.sortFields = state.sortFields
  regular : ∀ results ∈ page.results, results.Regular

theorem carries_ofState (state : ScreenState) : Carries state (.ofState state) :=
  ⟨rfl, rfl, rfl, fun _ hNone => by cases hNone⟩

theorem carries_screenedPage (state : ScreenState) (stocks : List Stock) (pageSize : Nat) :
    Carries state (screenedPage state stocks pageSize) := by
  obtain ⟨alert, results, hPage, hResults⟩ := screenedPage_eq state stocks pageSize
  rw [hPage]
  refine ⟨rfl, rfl, rfl, fun r hr => ?_⟩
  obtain ⟨view, rfl⟩ := hResults r hr
  exact regular_ofView state view

/-- A requested page carries the texts of the state in the address. -/
theorem carries_requestedPage {page : ScreenerPage} (h : server.requestedPage request = .ok page) :
    Carries (ScreenState.ofQueryString request.queryText) page := by
  rw [Server.requestedPage] at h
  split at h
  · rw [← Except.ok.inj h]
    exact carries_ofState _
  · cases hStocks : server.stocks with
    | error failure =>
        rw [hStocks] at h
        cases h
    | ok stocks =>
        simp only [hStocks, Except.map, Except.ok.injEq] at h
        rw [← h]
        exact carries_screenedPage _ stocks server.pageSize

end Requested

/-! Pages as they are sent. -/

/-- What a document shows is its title and then what its page shows. -/
def Request.framedValues (request : Request) (title : String) (shown : List String) :
    List String :=
  if request.wantsFragment then shown else title :: shown

theorem body_html (status : Nat) (content : Html) :
    (Response.html status content).body.toList = render content := String.toList_ofList

theorem outline_document (title : String) {content content' : Html}
    (h : outline content = outline content') :
    outline (document title content) = outline (document "" content') := by
  simp only [document, outline_append, outline_markup, outline_text, outline_nil, h]

theorem values_document (title : String) (content : Html) :
    values (document title content) = title :: values content := by
  simp only [document, values_append, values_markup, values_text, values_nil, List.append_nil]
  rfl

theorem outline_framed (request : Request) (title : String) {content content' : Html}
    (h : outline content = outline content') :
    outline (request.framed title content) = outline (request.framed "" content') := by
  unfold Request.framed
  split_ifs
  · exact h
  · exact outline_document title h

theorem values_framed (request : Request) (title : String) (content : Html) :
    values (request.framed title content) = request.framedValues title (values content) := by
  unfold Request.framed Request.framedValues
  split_ifs
  · rfl
  · exact values_document title content

/-- A response brings a screener page. Its text is the outline of the layout with the values of
the page, and the forms carry the query, the search and the sort of the address as they are. -/
structure BringsPage (request : Request) (page : ScreenerPage) (response : Response) :
    Prop where
  status : response.status = 200
  filled : Filled (outline (request.framed "" page.layout.bare.html))
    (request.framedValues screenerTitle page.values) response.body.toList
  query : (Seen.ofBody response.body).texts .query =
    [(ScreenState.ofQueryString request.queryText).query]
  search : (Seen.ofBody response.body).texts .search =
    page.results.toList.map fun _ => (ScreenState.ofQueryString request.queryText).table.search
  hidden : (Seen.ofBody response.body).hidden =
    (ScreenState.ofQueryString request.queryText).sortFields ++ page.results.toList.flatMap fun _ =>
      (ScreenState.queryParam, (ScreenState.ofQueryString request.queryText).query)
        :: (ScreenState.ofQueryString request.queryText).sortFields

/-- A response brings an error page: its text is an outline that no error changes, with the
status and the message. -/
structure BringsError (code : Nat) (message : String) (response : Response) : Prop where
  status : response.status = code
  filled : Filled (outline (document "" (errorPage 0 ""))) ["Error", toString code, message]
    response.body.toList

theorem bringsPage {server : Server} {request : Request} {page : ScreenerPage}
    (hGet : request.Gets "/") (h : server.requestedPage request = .ok page) :
    BringsPage request page (server.respond request) := by
  obtain ⟨hQuery, hSearch, hFields, hRegular⟩ := carries_requestedPage h
  have hResponse := respond_requested hGet h
  have hSeen : Seen.ofBody (server.respond request).body = page.seen := by
    rw [hResponse, seen_pageResponse]
  have hBody : (server.respond request).body.toList =
      render (request.framed screenerTitle page.html) := by
    rw [hResponse]
    exact body_html 200 _
  refine ⟨by rw [hResponse]; rfl, ?_, ?_, ?_, ?_⟩
  · have hFilled := filled_render (request.framed screenerTitle page.html)
    rwa [outline_framed request screenerTitle (outline_html hRegular), values_framed, values_html,
      ← hBody] at hFilled
  · rw [hSeen, ← hQuery]
    rfl
  · rw [hSeen, ← hSearch]
    rfl
  · rw [hSeen, ← hQuery, ← hFields]
    rfl

theorem bringsError (code : Nat) (message : String) :
    BringsError code message (.error code message) where
  status := rfl
  filled := by
    have hOutline : outline (errorPage code message) = outline (errorPage 0 "") := rfl
    have hFilled := filled_render (document "Error" (errorPage code message))
    rw [outline_document "Error" hOutline, values_document, ← body_html code] at hFilled
    exact hFilled

/-- What can be read under the other paths is no page. -/
theorem path_of_html {server : Server} {request : Request} {response : Response}
    (hRoute : server.route? request = some response)
    (hType : response.contentType = some "text/html; charset=utf-8") : request.path = "/" := by
  have hJson (status : Nat) (value : Json.Value) : Response.json status value ≠ response := by
    rintro rfl
    exact absurd hType (show some "application/json" ≠ _ by decide)
  have hPlain (status : Nat) (body : String) : Response.plain status body ≠ response := by
    rintro rfl
    exact absurd hType (show some "text/plain; charset=utf-8" ≠ _ by decide)
  rw [Server.route?] at hRoute
  split_ifs at hRoute with hRoot hStocks hScreen
  · exact eq_of_beq hRoot
  · rw [Server.listStocks] at hRoute
    split at hRoute
    all_goals exact absurd (Option.some.inj hRoute) (hJson _ _)
  · have hScreenQuery (query : List Char) : server.screenQuery query ≠ response := by
      unfold Server.screenQuery
      dsimp only
      split_ifs
      · exact hJson _ _
      · cases server.stocks <;> exact hJson _ _
    rw [Server.screenStocks] at hRoute
    split at hRoute
    · exact absurd (Option.some.inj hRoute) (hScreenQuery _)
    · exact absurd (Option.some.inj hRoute) (hScreenQuery _)
    · exact absurd (Option.some.inj hRoute) (hPlain _ _)

/-- Besides the page at the root there are only pages that report errors. -/
theorem html_response {server : Server} {request : Request}
    (hType : (server.respond request).contentType = some "text/html; charset=utf-8") :
    request.Gets "/" ∨ (server.respond request).body = "" ∨
      ∃ code message, server.respond request = .error code message := by
  rw [Server.respond] at hType ⊢
  split_ifs at hType ⊢ with hGet hHead hFound
  · cases hRoute : server.route? request with
    | none => exact .inr (.inr ⟨404, "Page not found", rfl⟩)
    | some response =>
        rw [hRoute] at hType
        exact .inl ⟨eq_of_beq hGet, path_of_html hRoute hType⟩
  · exact .inr (.inl rfl)
  · exact .inr (.inr ⟨404, "Page not found", rfl⟩)

/-- Texts stay texts. A request for the root brings the page that is asked for or an error page,
and every other response with HTML is an error page; all of them are outlines with values that
are escaped once. Two pages of one layout that are asked for in the same way have the same
markup, whatever the texts and the servers behind them. -/
theorem texts_stay_text :
    (∀ (server : Server) (request : Request), request.Gets "/" →
      (∃ page, server.requestedPage request = .ok page ∧
        BringsPage request page (server.respond request)) ∨
      ∃ failure, server.requestedPage request = .error failure ∧
        BringsError failure.status failure.message (server.respond request)) ∧
    (∀ (server : Server) (request : Request),
      (server.respond request).contentType = some "text/html; charset=utf-8" →
      request.Gets "/" ∨ (server.respond request).body = "" ∨
        ∃ code message, BringsError code message (server.respond request)) ∧
    ∀ (server server' : Server) (request request' : Request) (page page' : ScreenerPage),
      request.Gets "/" → server.requestedPage request = .ok page →
      request'.Gets "/" → server'.requestedPage request' = .ok page' →
      request.wantsFragment = request'.wantsFragment → page.layout = page'.layout →
      (server.respond request).body.toList.filter isMarkupChar =
        (server'.respond request').body.toList.filter isMarkupChar := by
  refine ⟨fun server request hGet => ?page, fun server request hType => ?others,
    fun server server' request request' page page' hGet hPage hGet' hPage' hSame hLayout => ?markup⟩
  case page =>
    cases h : server.requestedPage request with
    | ok page => exact .inl ⟨page, rfl, bringsPage hGet h⟩
    | error failure =>
        have hResponse : server.respond request = .error failure.status failure.message :=
          respond_requested hGet h
        exact .inr ⟨failure, rfl, hResponse ▸ bringsError _ _⟩
  case others =>
    obtain hGets | hEmpty | ⟨code, message, hError⟩ := html_response hType
    · exact .inl hGets
    · exact .inr (.inl hEmpty)
    · exact .inr (.inr ⟨code, message, hError ▸ bringsError code message⟩)
  case markup =>
    have hFilled := (bringsPage hGet hPage).filled
    have hFilled' := (bringsPage hGet' hPage').filled
    rw [Request.framed, ← hSame, ← hLayout] at hFilled'
    exact hFilled.sameMarkup hFilled'

/-- Markup in the tickers and the queries, on pages that are sorted by different columns. -/
theorem texts_stay_text_one_row :
    let rich (ticker : String) : Stock :=
      (Stock.ofTicker ticker).setMetric .roe (some (.ofMagnitude false 0x4022000000000000))
    let server : Server := ⟨.ok [rich "<b>&amp;"], 5⟩
    let server' : Server := ⟨.ok [rich "\"'x"], 5⟩
    let request : Request :=
      ⟨"GET", "/?query=roe%3E1%0A%3C/textarea%3E&sortKey=roe&sortDirection=ascending", []⟩
    let request' : Request :=
      ⟨"GET", "/?query=roe%3E0&sortKey=ticker&sortDirection=descending", []⟩
    ∃ page page',
      request.Gets "/" ∧ server.requestedPage request = .ok page ∧
      request'.Gets "/" ∧ server'.requestedPage request' = .ok page' ∧
      request.wantsFragment = request'.wantsFragment ∧ page.layout = page'.layout ∧
      page.layout.results.isSome = true ∧
      (server.respond request).body.toList.filter isMarkupChar =
        (server'.respond request').body.toList.filter isMarkupChar := by
  intro rich server server' request request'
  have hGet : request.Gets "/" := ⟨rfl, by decide +kernel⟩
  have hGet' : request'.Gets "/" := ⟨rfl, by decide +kernel⟩
  have hState : ScreenState.ofQueryString request.queryText =
      ⟨"roe>1\n</textarea>", some ⟨.metric .roe, .ascending⟩, 1, ""⟩ := by decide +kernel
  have hState' : ScreenState.ofQueryString request'.queryText =
      ⟨"roe>0", some ⟨.ticker, .descending⟩, 1, ""⟩ := by decide +kernel
  have hPage := requestedPage_of_query hState
    (fun h => absurd (h 'r' (by decide)) (by decide)) [rich "<b>&amp;"] 5
  have hPage' := requestedPage_of_query hState'
    (fun h => absurd (h 'r' (by decide)) (by decide)) [rich "\"'x"] 5
  have hSame : request.wantsFragment = request'.wantsFragment := rfl
  let layout : Layout := ⟨none, 2, some ⟨1, [(false, true)], false, false, false, false⟩⟩
  have hLayout : (screenedPage ⟨"roe>1\n</textarea>", some ⟨.metric .roe, .ascending⟩, 1, ""⟩
      [rich "<b>&amp;"] 5).layout = layout := by decide +kernel
  have hLayout' : (screenedPage ⟨"roe>0", some ⟨.ticker, .descending⟩, 1, ""⟩
      [rich "\"'x"] 5).layout = layout := by decide +kernel
  have hLayouts := hLayout.trans hLayout'.symm
  exact ⟨_, _, hGet, hPage, hGet', hPage', hSame, hLayouts, congrArg (·.results.isSome) hLayout,
    texts_stay_text.2.2 server server' request request' _ _ hGet hPage hGet' hPage' hSame hLayouts⟩

end EquityScreen.Web
