/-!
# Script: tools of the log viewer

Filters by level, jumps between errors, zoom, copy and download.
-/

namespace TestHistory.Page.Script.LogTools

def lines : List String := [
  "// Level filters",
  "function toggleFiltersMenu(id) \x7b",
  "    const menu = document.getElementById(id + '-filters');",
  "    const opening = !menu.classList.contains('show');",
  "    document.querySelectorAll('.log-filters-menu.show').forEach(m => m.classList.remove('show'));",
  "    if (opening) \x7b",
  "        countLogLevels(id);",
  "        menu.classList.add('show');",
  "    \x7d",
  "\x7d",
  "",
  "function countLogLevels(id) \x7b",
  "    const counts = \x7b error: 0, warning: 0, info: 0, debug: 0 \x7d;",
  "    logLines(id).forEach(line => counts[line.dataset.level]++);",
  "    document.querySelectorAll(`#$\x7bid\x7d-filters .filter-count`).forEach(span => \x7b",
  "        span.textContent = counts[span.dataset.level];",
  "    \x7d);",
  "    return counts;",
  "\x7d",
  "",
  "function applyFilters(id) \x7b",
  "    const enabled = \x7b\x7d;",
  "    document.querySelectorAll(`#$\x7bid\x7d-filters input[type=checkbox]`).forEach(cb => \x7b",
  "        enabled[cb.dataset.level] = cb.checked;",
  "    \x7d);",
  "    logLines(id).forEach(line => line.classList.toggle('hidden', !enabled[line.dataset.level]));",
  "    const state = logState(id);",
  "    state.errors = null;",
  "    state.errorIdx = -1;",
  "    document.getElementById(id + '-filters').classList.remove('show');",
  "\x7d",
  "",
  "function resetFilters(id) \x7b",
  "    document.querySelectorAll(`#$\x7bid\x7d-filters input[type=checkbox]`).forEach(cb => \x7b cb.checked = true; \x7d);",
  "    applyFilters(id);",
  "\x7d",
  "",
  "document.addEventListener('click', e => \x7b",
  "    if (!e.target.closest('.log-filters')) \x7b",
  "        document.querySelectorAll('.log-filters-menu.show').forEach(m => m.classList.remove('show'));",
  "    \x7d",
  "\x7d);",
  "",
  "// Error navigation",
  "function findErrorsInLog(id) \x7b",
  "    return logLines(id).filter(line => line.dataset.level === 'error' && !line.classList.contains('hidden'));",
  "\x7d",
  "",
  "function navigateErrors(id, step) \x7b",
  "    const state = logState(id);",
  "    if (state.errors === null) state.errors = findErrorsInLog(id);",
  "    const total = state.errors.length;",
  "    if (total === 0) \x7b",
  "        showNotification('No errors found in log', 'warning');",
  "        return;",
  "    \x7d",
  "    if (step > 0) state.errorIdx = (state.errorIdx + 1) % total;",
  "    else state.errorIdx = state.errorIdx <= 0 ? total - 1 : state.errorIdx - 1;",
  "    scrollToLine(document.getElementById(id), state.errors[state.errorIdx]);",
  "    document.getElementById(id + '-next-error').textContent = `Next error ($\x7bstate.errorIdx + 1\x7d/$\x7btotal\x7d)`;",
  "\x7d",
  "",
  "function jumpToNextError(id) \x7b navigateErrors(id, 1); \x7d",
  "function jumpToPrevError(id) \x7b navigateErrors(id, -1); \x7d",
  "function jumpToTop(id) \x7b document.getElementById(id).scrollTop = 0; \x7d",
  "function jumpToBottom(id) \x7b",
  "    const viewer = document.getElementById(id);",
  "    viewer.scrollTop = viewer.scrollHeight;",
  "\x7d",
  "",
  "// Display & export",
  "function zoom(id, delta) \x7b",
  "    const state = logState(id);",
  "    const next = state.font + delta;",
  "    if (next < 0 || next >= LOG_ZOOM_STEPS.length) return;",
  "    state.font = next;",
  "    document.getElementById(id).style.fontSize = (12 * LOG_ZOOM_STEPS[next] / 100) + 'px';",
  "    document.getElementById(id + '-zoom').textContent = LOG_ZOOM_STEPS[next] + '%';",
  "\x7d",
  "",
  "function toggleWrap(id) \x7b",
  "    document.getElementById(id).classList.toggle('wrap');",
  "\x7d",
  "",
  "function copyLog(id) \x7b",
  "    const viewer = document.getElementById(id);",
  "    copyToClipboard(logText(id), `$\x7bviewer.dataset.title\x7d copied`);",
  "\x7d",
  "",
  "function downloadLog(id) \x7b",
  "    const viewer = document.getElementById(id);",
  "    const base = (viewer.dataset.title || 'log').split('/').pop().replace(/[^A-Za-z0-9._-]+/g, '_');",
  "    const filename = /\\.(log|txt)$/.test(base) ? base : base + '.log';",
  "    const url = URL.createObjectURL(new Blob([logText(id)], \x7b type: 'text/plain' \x7d));",
  "    const link = document.createElement('a');",
  "    link.href = url;",
  "    link.download = filename;",
  "    document.body.appendChild(link);",
  "    link.click();",
  "    link.remove();",
  "    URL.revokeObjectURL(url);",
  "    showNotification(`Downloaded $\x7bfilename\x7d`);",
  "\x7d",
  ""]

end TestHistory.Page.Script.LogTools
