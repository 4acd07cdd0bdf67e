import EquityScreen.Page.Markup

/-! The document around every page, and the page that reports an error. -/
namespace EquityScreen.Page

def styleSheet : String :=
  "    body \x7b font-family: system-ui, sans-serif; margin: 0 auto; max-width: 72rem; "
    ++ "padding: 1.5rem 1rem; \x7d\n"
    ++ "    textarea \x7b width: 100%; min-height: 6rem; font-family: monospace; \x7d\n"
    ++ "    table \x7b border-collapse: collapse; width: 100%; margin: 1rem 0; \x7d\n"
    ++ "    th, td \x7b border-bottom: 1px solid #ddd; padding: 0.4rem 0.6rem; "
    ++ "text-align: right; \x7d\n"
    ++ "    th:first-child, td:first-child \x7b text-align: left; \x7d\n"
    ++ "    th a \x7b color: inherit; text-decoration: none; \x7d\n"
    ++ "    .alert \x7b border-radius: 4px; margin: 1rem 0; padding: 0.75rem 1rem; \x7d\n"
    ++ "    .alert-info \x7b background: #eef6ff; border: 1px solid #9cc3f5; \x7d\n"
    ++ "    .alert-error \x7b background: #fdecec; border: 1px solid #f09a9a; \x7d\n"
    ++ "    .pagination a, .pagination span \x7b margin-right: 0.4rem; \x7d\n"
    ++ "    .pagination .current \x7b font-weight: bold; \x7d\n"

/-- A document with a title around a page. -/
def document (title : String) (content : Html) : Html :=
  [.markup "<!DOCTYPE html>\n<html lang=\"en\">\n<head>\n  <meta charset=\"utf-8\">\n",
    .markup "  <meta name=\"viewport\" content=\"width=device-width, initial-scale=1\">\n  <title>",
    .text title,
    .markup "</title>\n  <script src=\"https://unpkg.com/htmx.org@1.9.12\"></script>\n  <style>\n",
    .markup styleSheet,
    .markup "  </style>\n</head>\n<body>\n  <h1>Stock Screening Tool</h1>\n",
    .markup "  <main id=\"content\" hx-boost=\"true\" hx-target=\"#content\">"]
    ++ content
    ++ [.markup "</main>\n</body>\n</html>"]

/-- The page that reports an error with a status. -/
def errorPage (status : Nat) (message : String) : Html :=
  [.markup "<div id=\"error\" class=\"alert alert-error\" role=\"alert\">\n  <strong>Error ",
    .text (toString status), .markup "</strong>\n  <p>", .text message, .markup "</p>\n</div>"]

end EquityScreen.Page
