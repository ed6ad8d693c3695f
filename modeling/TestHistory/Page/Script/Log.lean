/-!
# Script: the log viewer

Colors of terminals, levels and landmarks of logs, and the viewer itself.
-/

namespace TestHistory.Page.Script.Log

def lines : List String := [
  "// ANSI color codes in logs",
  "function ansiToHtml(text) \x7b",
  "    if (!text) return '';",
  "    const colors = \x7b",
  "        30: 'black', 31: '#ef4444', 32: '#10b981', 33: '#f59e0b',",
  "        34: '#3b82f6', 35: '#d946ef', 36: '#06b6d4', 37: '#f8fafc',",
  "        90: '#64748b', 91: '#f87171', 92: '#34d399', 93: '#fbbf24',",
  "        94: '#60a5fa', 95: '#e879f9', 96: '#22d3ee', 97: '#ffffff'",
  "    \x7d;",
  "    let html = '';",
  "    let style = [];",
  "    for (const part of text.split(/(\\x1b\\[[0-9;]*m)/g)) \x7b",
  "        if (part.startsWith('\\x1b[')) \x7b",
  "            for (const code of part.slice(2, -1).split(';').map(Number)) \x7b",
  "                if (code === 0) style = [];",
  "                else if (code === 1) style.push('font-weight:bold');",
  "                else if (code === 4) style.push('text-decoration:underline');",
  "                else if (colors[code]) style.push(`color:$\x7bcolors[code]\x7d`);",
  "            \x7d",
  "        \x7d else if (part) \x7b",
  "            const attr = style.length ? ` style=\"$\x7bstyle.join(';')\x7d\"` : '';",
  "            html += `<span$\x7battr\x7d>$\x7bescapeHtml(part)\x7d</span>`;",
  "        \x7d",
  "    \x7d",
  "    return html;",
  "\x7d",
  "",
  "// Log viewer",
  "let viewerCounter = 0;",
  "const LOG_ZOOM_STEPS = [85, 100, 115, 130];",
  "const LOG_LEVELS = ['error', 'warning', 'info', 'debug'];",
  "const logStates = \x7b\x7d;",
  "",
  "function logState(id) \x7b",
  "    if (!logStates[id]) \x7b",
  "        logStates[id] = \x7b font: 1, errors: null, errorIdx: -1, matches: [], matchIdx: -1, original: null \x7d;",
  "    \x7d",
  "    return logStates[id];",
  "\x7d",
  "",
  "function stripAnsi(text) \x7b",
  "    return String(text || '').replace(/\\x1b\\[[0-9;]*m/g, '');",
  "\x7d",
  "",
  "function logLevel(plain) \x7b",
  "    const text = plain.toLowerCase();",
  "    if (text.includes('error') || text.includes('failed') || text.includes('panic') || text.includes('✗')) return 'error';",
  "    if (text.includes('warn')) return 'warning';",
  "    if (text.includes('debug')) return 'debug';",
  "    return 'info';",
  "\x7d",
  "",
  "// Ginkgo structure: spec separators, STEP markers and spec results.",
  "function highlightLogSyntax(plain) \x7b",
  "    if (/^-\x7b30,\x7d$/.test(plain.trim())) return ' log-separator';",
  "    if (/\\[FAILED\\]|\\bFAIL!/.test(plain)) return ' log-failed';",
  "    if (/\\[PASSED\\]|\\bSUCCESS!/.test(plain)) return ' log-passed';",
  "    if (/\\bSTEP:/.test(plain)) return ' log-step';",
  "    return '';",
  "\x7d",
  "",
  "function logLineHtml(line, idx) \x7b",
  "    const plain = stripAnsi(line);",
  "    const level = logLevel(plain);",
  "    return `<div class=\"log-line level-$\x7blevel\x7d$\x7bhighlightLogSyntax(plain)\x7d\" data-level=\"$\x7blevel\x7d\">` +",
  "        `<span class=\"log-line-number\">$\x7bidx + 1\x7d</span>` +",
  "        `<span class=\"log-line-content\">$\x7bansiToHtml(line)\x7d</span></div>`;",
  "\x7d",
  "",
  "function logViewer(content, title) \x7b",
  "    const id = 'viewer-' + (viewerCounter++);",
  "    const lines = String(content || '').split('\\n');",
  "    if (lines.length > 1 && lines[lines.length - 1] === '') lines.pop();",
  "    const counts = \x7b error: 0, warning: 0, info: 0, debug: 0 \x7d;",
  "    lines.forEach(line => counts[logLevel(stripAnsi(line))]++);",
  "    const levels = LOG_LEVELS.map(level => `",
  "        <label><input type=\"checkbox\" data-level=\"$\x7blevel\x7d\" checked> $\x7blevel\x7d",
  "            <span class=\"filter-count\" data-level=\"$\x7blevel\x7d\">$\x7bcounts[level]\x7d</span></label>`).join('');",
  "    return `",
  "        <div class=\"log-controls\">",
  "            <input type=\"text\" class=\"filter-input\" id=\"$\x7bid\x7d-search\" placeholder=\"Search log...\"",
  "                oninput=\"performSearch('$\x7bid\x7d')\" onkeydown=\"searchKey(event, '$\x7bid\x7d')\">",
  "            <button class=\"btn\" onclick=\"prevSearchResult('$\x7bid\x7d')\" title=\"Previous match\">&uarr;</button>",
  "            <button class=\"btn\" onclick=\"nextSearchResult('$\x7bid\x7d')\" title=\"Next match\">&darr;</button>",
  "            <span class=\"subtle\" id=\"$\x7bid\x7d-counter\">0/0</span>",
  "            <span class=\"log-filters\">",
  "                <button class=\"btn\" onclick=\"toggleFiltersMenu('$\x7bid\x7d')\">Levels</button>",
  "                <div class=\"log-filters-menu\" id=\"$\x7bid\x7d-filters\">$\x7blevels\x7d",
  "                    <div class=\"log-filters-actions\">",
  "                        <button class=\"btn\" onclick=\"applyFilters('$\x7bid\x7d')\">Apply</button>",
  "                        <button class=\"btn\" onclick=\"resetFilters('$\x7bid\x7d')\">Reset</button>",
  "                    </div>",
  "                </div>",
  "            </span>",
  "            <button class=\"btn\" onclick=\"jumpToPrevError('$\x7bid\x7d')\">Prev error</button>",
  "            <button class=\"btn\" id=\"$\x7bid\x7d-next-error\" onclick=\"jumpToNextError('$\x7bid\x7d')\">Next error ($\x7bcounts.error\x7d)</button>",
  "            <button class=\"btn\" onclick=\"jumpToTop('$\x7bid\x7d')\">Top</button>",
  "            <button class=\"btn\" onclick=\"jumpToBottom('$\x7bid\x7d')\">Bottom</button>",
  "            <button class=\"btn\" onclick=\"zoom('$\x7bid\x7d', -1)\" title=\"Smaller text\">A-</button>",
  "            <span class=\"subtle\" id=\"$\x7bid\x7d-zoom\">100%</span>",
  "            <button class=\"btn\" onclick=\"zoom('$\x7bid\x7d', 1)\" title=\"Larger text\">A+</button>",
  "            <button class=\"btn\" onclick=\"toggleWrap('$\x7bid\x7d')\">Wrap</button>",
  "            <button class=\"btn\" onclick=\"copyLog('$\x7bid\x7d')\">Copy</button>",
  "            <button class=\"btn\" onclick=\"downloadLog('$\x7bid\x7d')\">Download</button>",
  "        </div>",
  "        <div class=\"log-view\" id=\"$\x7bid\x7d\" data-title=\"$\x7bescapeHtml(title)\x7d\">$\x7blines.map(logLineHtml).join('')\x7d</div>`;",
  "\x7d",
  "",
  "function logLines(id) \x7b",
  "    return Array.from(document.querySelectorAll(`#$\x7bid\x7d .log-line`));",
  "\x7d",
  "",
  "function logText(id) \x7b",
  "    return logLines(id).map(line => line.querySelector('.log-line-content').textContent).join('\\n');",
  "\x7d",
  "",
  "function scrollToLine(viewer, line) \x7b",
  "    if (!viewer || !line) return;",
  "    viewer.scrollTop = Math.max(line.offsetTop - 40, 0);",
  "    line.classList.add('flash');",
  "    setTimeout(() => line.classList.remove('flash'), 1500);",
  "\x7d",
  ""]

end TestHistory.Page.Script.Log
