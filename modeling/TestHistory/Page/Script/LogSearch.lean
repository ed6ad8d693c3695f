/-!
# Script: search in logs

Marks matches and walks through them.
-/

namespace TestHistory.Page.Script.LogSearch

def lines : List String := [
  "// Search",
  "function performSearch(id) \x7b",
  "    const viewer = document.getElementById(id);",
  "    const state = logState(id);",
  "    const contents = Array.from(viewer.querySelectorAll('.log-line-content'));",
  "    if (state.original === null) state.original = contents.map(c => c.innerHTML);",
  "    contents.forEach((c, i) => \x7b c.innerHTML = state.original[i]; \x7d);",
  "    state.matches = [];",
  "    state.matchIdx = -1;",
  "",
  "    const needle = document.getElementById(id + '-search').value.trim().toLowerCase();",
  "    if (needle) \x7b",
  "        contents.forEach(c => \x7b",
  "            const text = c.textContent;",
  "            const lower = text.toLowerCase();",
  "            let from = 0;",
  "            let at;",
  "            let html = '';",
  "            while ((at = lower.indexOf(needle, from)) !== -1) \x7b",
  "                html += escapeHtml(text.slice(from, at)) +",
  "                    `<mark class=\"search-hit\">$\x7bescapeHtml(text.slice(at, at + needle.length))\x7d</mark>`;",
  "                from = at + needle.length;",
  "            \x7d",
  "            if (from > 0) c.innerHTML = html + escapeHtml(text.slice(from));",
  "        \x7d);",
  "        state.matches = Array.from(viewer.querySelectorAll('mark.search-hit'));",
  "    \x7d",
  "    if (state.matches.length > 0) showMatch(id, 0);",
  "    else updateSearchCounter(id);",
  "\x7d",
  "",
  "function showMatch(id, idx) \x7b",
  "    const state = logState(id);",
  "    state.matches.forEach(m => m.classList.remove('current'));",
  "    state.matchIdx = idx;",
  "    const mark = state.matches[idx];",
  "    mark.classList.add('current');",
  "    scrollToLine(document.getElementById(id), mark.closest('.log-line'));",
  "    updateSearchCounter(id);",
  "\x7d",
  "",
  "function nextSearchResult(id) \x7b",
  "    const state = logState(id);",
  "    if (state.matches.length === 0) return;",
  "    showMatch(id, (state.matchIdx + 1) % state.matches.length);",
  "\x7d",
  "",
  "function prevSearchResult(id) \x7b",
  "    const state = logState(id);",
  "    if (state.matches.length === 0) return;",
  "    showMatch(id, state.matchIdx <= 0 ? state.matches.length - 1 : state.matchIdx - 1);",
  "\x7d",
  "",
  "function updateSearchCounter(id) \x7b",
  "    const state = logState(id);",
  "    const total = state.matches.length;",
  "    document.getElementById(id + '-counter').textContent = total ? `$\x7bstate.matchIdx + 1\x7d/$\x7btotal\x7d` : '0/0';",
  "\x7d",
  "",
  "function searchKey(event, id) \x7b",
  "    if (event.key !== 'Enter') return;",
  "    event.preventDefault();",
  "    if (event.shiftKey) prevSearchResult(id);",
  "    else nextSearchResult(id);",
  "\x7d",
  ""]

end TestHistory.Page.Script.LogSearch
