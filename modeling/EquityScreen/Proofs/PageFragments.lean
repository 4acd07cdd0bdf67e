import EquityScreen.Proofs.InertTexts

/-! Pages alone and in documents. A request can ask for the page at the root alone. What it gets
then is what stands in the document that it would get otherwise, and no part of that
document; but a failure to load the stocks is reported by a whole document in either case. -/
namespace EquityScreen

namespace Page

/-- A text is a page without a document around it. -/
def Alone (written : List Char) : Prop := ∀ mark ∈ documentMarks, ¬mark.chars <:+: written

/-- Where a mark stands, something is read. -/
theorem Mark.readAll_of_infix {mark : Mark} {α : Type} (read : List Char → α) {cs : List Char}
    (h : mark.chars <:+: cs) : mark.readAll read cs ≠ [] := by
  obtain ⟨before, after, rfl⟩ := h
  rw [List.append_assoc]
  induction before with
  | nil =>
      rw [List.nil_append, mark.readAll_mark]
      exact List.cons_ne_nil _ _
  | cons c before ih =>
      rw [List.cons_append, readAll]
      split
      · exact List.cons_ne_nil _ _
      · exact ih

/-- Markup without the tags of a document is a page alone, whatever texts stand in it. -/
theorem alone_of_plain {html : Html} (h : plainMarkup documentMarks html = true) :
    Alone (render html) := by
  intro mark hMark hInfix
  have hRead := Mark.readAll_of_plain h hMark id []
  rw [List.append_nil] at hRead
  exact Mark.readAll_of_infix id hInfix hRead

/-! The parts of a page, as in its layout. -/

theorem plain_hiddenFields (fields : List (String × String)) :
    plainMarkup documentMarks (hiddenFields fields) = true := by
  refine plainMarkup_flatMap (fun field => ?_) fields
  simp only [plainMarkup_markup, plainMarkup_text, plainMarkup_nil]
  repeat rw [String.toList_ofList]
  decide

theorem plain_queryForm (page : ScreenerPage) :
    plainMarkup documentMarks (queryForm page) = true := by
  simp only [queryForm, plainMarkup_append, plain_hiddenFields, plainMarkup_markup,
    plainMarkup_text, plainMarkup_nil]
  repeat rw [String.toList_ofList]
  decide

theorem plain_alertBox (alert : Alert) : plainMarkup documentMarks (alertBox alert) = true := by
  simp only [alertBox, plainMarkup_markup, plainMarkup_text, plainMarkup_nil]
  repeat rw [String.toList_ofList]
  decide

theorem plain_searchForm (page : ScreenerPage) :
    plainMarkup documentMarks (searchForm page) = true := by
  simp only [searchForm, plainMarkup_append, plain_hiddenFields, plainMarkup_markup,
    plainMarkup_text, plainMarkup_nil]
  repeat rw [String.toList_ofList]
  decide

theorem plain_rowHtml (row : List String) : plainMarkup documentMarks (rowHtml row) = true := by
  have hCells : plainMarkup documentMarks (row.flatMap fun cell =>
      [.markup "<td>", .text cell, .markup "</td>"]) = true := by
    refine plainMarkup_flatMap (fun cell => ?_) row
    simp only [plainMarkup_markup, plainMarkup_text, plainMarkup_nil]
    repeat rw [String.toList_ofList]
    decide
  simp only [rowHtml, plainMarkup_append, hCells, plainMarkup_markup, plainMarkup_nil]
  repeat rw [String.toList_ofList]
  decide

theorem plain_tableHtml (results : ResultsTable) :
    plainMarkup documentMarks (tableHtml results) = true := by
  have hHeaders := plainMarkup_of_subset (plainMarkup_flatMap plain_headerCellHtml results.headers)
    documentMarks_subset
  simp only [tableHtml, plainMarkup_append, hHeaders, plainMarkup_flatMap plain_rowHtml,
    plainMarkup_markup, plainMarkup_nil]
  repeat rw [String.toList_ofList]
  decide

theorem plain_paginationHtml (results : ResultsTable) :
    plainMarkup documentMarks (paginationHtml results) = true := by
  obtain ⟨links, hLinks, hPagination⟩ := exists_links results
  simp only [hPagination, plainMarkup_append, plainMarkup_of_subset hLinks documentMarks_subset,
    plainMarkup_markup, plainMarkup_text, plainMarkup_nil]
  repeat rw [String.toList_ofList]
  decide

/-- No text of a query, an address or the stock data brings a tag of a document into a page. -/
theorem alone_html (page : ScreenerPage) : Alone (render page.html) := by
  have hAlert : plainMarkup documentMarks (page.alert.elim [] alertBox) = true := by
    cases page.alert with
    | none => rfl
    | some alert => exact plain_alertBox alert
  have hResults : plainMarkup documentMarks (page.results.elim [] (resultsHtml page)) = true := by
    cases page.results with
    | none => rfl
    | some results =>
        simp only [Option.elim_some, resultsHtml, plainMarkup_append, plain_searchForm,
          plain_tableHtml, plain_paginationHtml, Bool.and_self]
  apply alone_of_plain
  simp only [html_eq, plainMarkup_append, plain_queryForm, hAlert, hResults, plainMarkup_markup,
    plainMarkup_nil]
  decide

/-- A document begins with a tag that no page has. -/
theorem not_alone_document (title : String) (content : Html) :
    ¬Alone (render (document title content)) := by
  intro h
  have hMark : (⟨"<!DOCTYPE", "<!DOCTYPE".toList, rfl, rfl, rfl⟩ : Mark) ∈ documentMarks :=
    List.mem_cons_self
  refine h _ hMark (List.IsPrefix.isInfix ?_)
  rw [document, List.append_assoc, List.cons_append, render_markup]
  refine List.IsPrefix.trans ?_ (List.prefix_append _ _)
  decide

end Page

namespace Web

open Page

/-- Two requests for what is at one address, the first for a document and the second for the page
alone. Their other headers may differ. -/
structure Request.AskAlike (whole part : Request) : Prop where
  getsWhole : whole.Gets "/"
  getsPart : part.Gets "/"
  target : part.target = whole.target
  document : whole.wantsFragment = false
  alone : part.wantsFragment = true

/-- The second response is a page alone, and the first is the document around that page. -/
structure Correspond (whole part : Response) : Prop where
  status : part.status = whole.status
  alone : Alone part.body.toList
  framed : ∃ title content,
    part.body.toList = render content ∧ whole.body.toList = render (document title content)

variable {server : Server} {request whole part : Request}

/-- What a request asks for is told by its target. -/
theorem requestedPage_of_target (h : part.target = whole.target) :
    server.requestedPage part = server.requestedPage whole := by
  have hText : part.queryText = whole.queryText := by
    simp only [Request.queryText, Request.resource, h]
  rw [Server.requestedPage, hText]
  rfl

/-- There is no page exactly if there is a query and the stocks could not be loaded. -/
theorem requestedPage_eq_error_iff {failure : Failure} :
    server.requestedPage request = .error failure ↔
      ¬Text.AllBlank (ScreenState.ofQueryString request.queryText).query.toList ∧
        server.stocks = .error failure := by
  unfold Server.requestedPage
  dsimp only
  split
  · next hBlank => simp [Text.isEmpty_trim_iff.mp hBlank]
  · next hQuery =>
      rw [Text.isEmpty_trim_iff] at hQuery
      cases server.stocks <;> simp [Except.map, hQuery]

theorem respond_whole {page : ScreenerPage} (hGet : request.Gets "/")
    (hDocument : request.wantsFragment = false) (h : server.requestedPage request = .ok page) :
    server.respond request = .html 200 (document screenerTitle page.html) := by
  rw [respond_requested hGet h]
  simp only [pageResponse, Request.framed, hDocument, Bool.false_eq_true, if_false]

theorem respond_part {page : ScreenerPage} (hGet : request.Gets "/")
    (hAlone : request.wantsFragment = true) (h : server.requestedPage request = .ok page) :
    server.respond request = .html 200 page.html := by
  rw [respond_requested hGet h]
  simp only [pageResponse, Request.framed, hAlone, if_true]

/-- A failure is reported by a document. -/
theorem body_ofFailure (failure : Failure) :
    (Response.ofFailure failure).body.toList =
      render (document "Error" (errorPage failure.status failure.message)) :=
  body_html _ _

theorem correspond_of_page {page : ScreenerPage} (h : whole.AskAlike part)
    (hPage : server.requestedPage whole = .ok page) :
    Correspond (server.respond whole) (server.respond part) := by
  have hPart : server.requestedPage part = .ok page :=
    (requestedPage_of_target h.target).trans hPage
  rw [respond_whole h.getsWhole h.document hPage, respond_part h.getsPart h.alone hPart]
  refine ⟨rfl, ?_, screenerTitle, page.html, body_html _ _, body_html _ _⟩
  rw [body_html]
  exact alone_html page

/-- A request for the page alone and one for the document have the same status. They get a page and
the document around it unless there is a query and the stocks cannot be loaded. In that case both
get the same document, which holds a report of the failure. -/
theorem responses_correspond (h : whole.AskAlike part) :
    (server.respond part).status = (server.respond whole).status ∧
    (Correspond (server.respond whole) (server.respond part) ↔
      Text.AllBlank (ScreenState.ofQueryString whole.queryText).query.toList ∨
        ∃ stocks, server.stocks = .ok stocks) ∧
    ∀ failure, ¬Text.AllBlank (ScreenState.ofQueryString whole.queryText).query.toList →
      server.stocks = .error failure →
      server.respond part = server.respond whole ∧
      (server.respond whole).status = failure.status ∧
      (server.respond whole).body.toList =
        render (document "Error" (errorPage failure.status failure.message)) := by
  have hSame : server.requestedPage part = server.requestedPage whole :=
    requestedPage_of_target h.target
  cases hPage : server.requestedPage whole with
  | ok page =>
      have hBoth := correspond_of_page h hPage
      -- With a page there is no failure that could be reported.
      have hNone (failure : Failure)
          (hQuery : ¬Text.AllBlank (ScreenState.ofQueryString whole.queryText).query.toList) :
          server.stocks ≠ .error failure := fun hStocks => by
        rw [requestedPage_eq_error_iff.mpr ⟨hQuery, hStocks⟩] at hPage
        cases hPage
      refine ⟨hBoth.status, ⟨fun _ => ?_, fun _ => hBoth⟩, fun failure hQuery hStocks => ?_⟩
      · by_cases hQuery : Text.AllBlank (ScreenState.ofQueryString whole.queryText).query.toList
        · exact .inl hQuery
        · cases hStocks : server.stocks with
          | ok stocks => exact .inr ⟨stocks, rfl⟩
          | error failure => exact absurd hStocks (hNone failure hQuery)
      · exact absurd hStocks (hNone failure hQuery)
  | error failure =>
      obtain ⟨hQuery, hStocks⟩ := requestedPage_eq_error_iff.mp hPage
      have hWhole : server.respond whole = .ofFailure failure :=
        respond_requested h.getsWhole hPage
      have hPart : server.respond part = .ofFailure failure :=
        respond_requested h.getsPart (hSame.trans hPage)
      have hBody := body_ofFailure failure
      rw [hWhole, hPart]
      refine ⟨rfl, ⟨fun hBoth => ?_, fun hHad => ?_⟩, fun other _ hOther => ?_⟩
      · have hAlone := hBoth.alone
        rw [hBody] at hAlone
        exact absurd hAlone (not_alone_document _ _)
      · obtain hBlank | ⟨stocks, hLoaded⟩ := hHad
        · exact absurd hBlank hQuery
        · rw [hLoaded] at hStocks
          cases hStocks
      · rw [hStocks] at hOther
        cases hOther
        exact ⟨rfl, rfl, hBody⟩

/-- A query with tags of a document in it, over a stock that has such a tag for a ticker. -/
theorem responses_correspond_tags :
    let stock := (Stock.ofTicker "<html>").setMetric .roe
      (some (.ofMagnitude false 0x4022000000000000))
    let server : Server := ⟨.ok [stock], 5⟩
    let whole : Request := ⟨"GET", "/?query=roe%3E1%0A%3C/main%3E", [("Accept", "text/html")]⟩
    let part : Request := ⟨"GET", "/?query=roe%3E1%0A%3C/main%3E", [("hx-request", "false")]⟩
    whole.AskAlike part ∧
    (ScreenState.ofQueryString whole.queryText).query = "roe>1\n</main>" ∧
    Correspond (server.respond whole) (server.respond part) := by
  intro stock server whole part
  have hAlike : whole.AskAlike part :=
    ⟨⟨rfl, by decide +kernel⟩, ⟨rfl, by decide +kernel⟩, rfl, by decide +kernel, by decide +kernel⟩
  have hBoth : Correspond (server.respond whole) (server.respond part) :=
    (responses_correspond hAlike).2.1.mpr (.inr ⟨[stock], rfl⟩)
  exact ⟨hAlike, by decide +kernel, hBoth⟩

/-- A query that is asked for while the stocks cannot be loaded. The request for the page alone gets
the document of the other one. -/
theorem failure_not_alone :
    let server : Server := ⟨.error (.dataSource "p" "r"), 10⟩
    let whole : Request := ⟨"GET", "/?query=roe+%3E+1", []⟩
    let part : Request := ⟨"GET", "/?query=roe+%3E+1", [("HX-Request", "true")]⟩
    whole.AskAlike part ∧
    server.respond part = server.respond whole ∧
    (server.respond part).status = 500 ∧
    ¬Alone (server.respond part).body.toList ∧
    ¬Correspond (server.respond whole) (server.respond part) := by
  intro server whole part
  have hAlike : whole.AskAlike part :=
    ⟨⟨rfl, by decide +kernel⟩, ⟨rfl, by decide +kernel⟩, rfl, by decide +kernel, by decide +kernel⟩
  have hState : (ScreenState.ofQueryString whole.queryText).query = "roe > 1" := by decide +kernel
  have hQuery : ¬Text.AllBlank (ScreenState.ofQueryString whole.queryText).query.toList := by
    rw [hState]
    exact fun h => absurd (h 'r' (by decide)) (by decide)
  have hError : server.requestedPage whole = .error (.dataSource "p" "r") :=
    requestedPage_eq_error_iff.mpr ⟨hQuery, rfl⟩
  have hWhole : server.respond whole = .ofFailure (.dataSource "p" "r") :=
    respond_requested hAlike.getsWhole hError
  have hPart : server.respond part = .ofFailure (.dataSource "p" "r") :=
    respond_requested hAlike.getsPart ((requestedPage_of_target hAlike.target).trans hError)
  have hNot : ¬Alone (server.respond part).body.toList := by
    rw [hPart, body_ofFailure]
    exact not_alone_document _ _
  exact ⟨hAlike, hPart.trans hWhole.symm, by rw [hPart]; rfl, hNot, fun h => hNot h.alone⟩

end Web

end EquityScreen
