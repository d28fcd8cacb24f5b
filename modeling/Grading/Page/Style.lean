/-
What every page carries along, so that it needs no other file:

* `style`: how it looks, in a light and in a dark form;
* `script`: what sorts the summary when a heading is clicked.
-/
import Grading.Text.Basic

namespace Grading

namespace Page

/-- The style sheet. -/
def style : Text :=
  Text.ofLines [
    "",
    ":root \x7b --bg: #fff; --fg: #1a1a1a; --border: #e5e7eb; --pass: #dcfce7; --partial: " ++
      "#fef9c3; --fail: #fde2e2; \x7d",
    "@media (prefers-color-scheme: dark) \x7b",
    "  :root \x7b --bg: #111827; --fg: #f9fafb; --border: #374151; --pass: #064e3b; --partial: " ++
      "#713f12; --fail: #7f1d1d; \x7d",
    "\x7d",
    "body \x7b font-family: -apple-system, BlinkMacSystemFont, 'Segoe UI', sans-serif; margin: " ++
      "0; padding: 2rem; background: var(--bg); color: var(--fg); \x7d",
    "h1, h2 \x7b margin-top: 2rem; \x7d",
    ".meta \x7b color: #6b7280; \x7d",
    "table \x7b border-collapse: collapse; width: 100%; margin: 1rem 0; \x7d",
    "th, td \x7b border: 1px solid var(--border); padding: 0.5rem 1rem; text-align: left; \x7d",
    "th \x7b background: var(--border); cursor: pointer; \x7d",
    ".pass \x7b background: var(--pass); \x7d",
    ".partial \x7b background: var(--partial); \x7d",
    ".fail \x7b background: var(--fail); \x7d",
    "pre \x7b overflow-x: auto; padding: 1rem; background: var(--border); border-radius: 8px; " ++
      "\x7d",
    "code \x7b font-family: 'JetBrains Mono', 'Fira Code', monospace; font-size: 0.85rem; \x7d",
    "details \x7b margin: 1rem 0; \x7d",
    "summary \x7b cursor: pointer; font-weight: bold; \x7d",
    "svg \x7b margin: 1rem 0; \x7d"]

/-- The script. -/
def script : Text :=
  Text.ofLines [
    "",
    "function sortTable(col) \x7b",
    "  const table = document.getElementById('results');",
    "  const tbody = table.querySelector('tbody');",
    "  const rows = Array.from(tbody.querySelectorAll('tr'));",
    "  const asc = table.dataset.sortCol == col && table.dataset.sortDir == 'asc' ? false : " ++
      "true;",
    "  rows.sort((a, b) => \x7b",
    "    const va = a.cells[col].textContent;",
    "    const vb = b.cells[col].textContent;",
    "    return asc ? va.localeCompare(vb, undefined, \x7bnumeric: true\x7d) : " ++
      "vb.localeCompare(va, undefined, \x7bnumeric: true\x7d);",
    "  \x7d);",
    "  table.dataset.sortCol = col;",
    "  table.dataset.sortDir = asc ? 'asc' : 'desc';",
    "  rows.forEach(r => tbody.appendChild(r));",
    "\x7d"]

end Page

end Grading
