/-
The document around a page.

A document is a fixed frame with places for the language, the direction,
the stylesheet, the body and the script. The statements of the script run
in order inside one `try` block, so the first error at run time is
reported and skips the statements after it. The language and the direction
are raw text, as a configuration gives them.

* `Frame` — the language and the direction of a document;
* `Frame.document` — the document of a body and its script.
-/
import LivePage.Page.Compile

namespace LivePage

/-- The language and the direction of a document. -/
structure Frame where
  /-- The language. -/
  lang : RawText := raw "ar"
  /-- The direction of the text. -/
  dir : RawText := raw "rtl"
deriving DecidableEq, Repr

/-- The stylesheet of every document. -/
def stylesheet : Text :=
  r"
@import url('https://fonts.googleapis.com/css2?family=Outfit:wght@400;600&display=swap');
body {
    margin: 0; padding: 40px; font-family: 'Outfit', sans-serif;
    background: #0f172a; color: #f8fafc;
    display: flex; flex-direction: column; align-items: center; min-height: 100vh;
    overflow-x: hidden;
}
.moe-row { display: flex; gap: 20px; width: 100%; max-width: 1000px; margin-bottom: 20px; flex-wrap: wrap; }
.moe-col { flex: 1; min-width: 250px; display: flex; flex-direction: column; gap: 15px; }
.moe-card {
    background: #1e293b; border: 1px solid #334155;
    padding: 30px; border-radius: 20px;
    box-shadow: 0 10px 25px rgba(0,0,0,0.2);
    width: 100%; transition: 0.3s;
}
.moe-card:hover { transform: translateY(-5px); border-color: #007acc; }
h1 { font-size: 3rem; color: #38bdf8; margin: 0 0 10px 0; }
p { color: #94a3b8; line-height: 1.6; }
button {
    background: #38bdf8; color: #0f172a;
    border: none; padding: 12px 25px; border-radius: 12px;
    font-weight: 600; cursor: pointer; transition: 0.2s;
    width: fit-content; margin-top: 10px;
}
button:hover { background: #7dd3fc; transform: scale(1.05); }
button:active { transform: scale(0.95); }
.moe-element { transition: 0.3s; }
* { box-sizing: border-box; }
".toList

/-- What a document has behind its language and direction. -/
def documentRest (body : Text) (scripts : List Text) : Text :=
  "\">\n<head>\n<meta charset=\"UTF-8\">\n<style>".toList ++ stylesheet ++
    "</style>\n</head>\n<body>\n".toList ++ body ++
    "\n<script>\n(function() \x7b\ntry \x7b ".toList ++ Text.unlines scripts ++
    (" \x7d catch(e) \x7b console.error('Moe Script Error:', e); \x7d\n\x7d)();\n" ++
      "</script>\n</body>\n</html>\n").toList

/-- The document with a body and a script. -/
def Frame.document (frame : Frame) (body : Text) (scripts : List Text) : RawText :=
  raw "<!DOCTYPE html>\n<html lang=\"" ++ frame.lang ++ raw "\" dir=\"" ++ frame.dir ++
    (documentRest body scripts).raw

/-- Compiles a source to a whole document. -/
def Frame.compile (frame : Frame) (source : Text) : RawText :=
  let page := LivePage.compile source
  frame.document page.body page.scripts

end LivePage
