/-!
# Script: the frame of the page

Texts, tabs, the theme, notifications and the clipboard.
-/

namespace TestHistory.Page.Script.Shell

def lines : List String := [
  "const PATTERN_DESCRIPTIONS = \x7b",
  "    intermittent: 'Fails randomly with no clear pattern',",
  "    occasional: 'Fails infrequently, mostly passes',",
  "    frequent: 'Fails often, passes sometimes',",
  "    alternating: 'Alternates between pass and fail',",
  "    unstable: 'Highly unpredictable behavior'",
  "\x7d;",
  "",
  "function patternDescription(pattern) \x7b",
  "    return PATTERN_DESCRIPTIONS[pattern] || 'Unknown pattern';",
  "\x7d",
  "",
  "function escapeHtml(text) \x7b",
  "    return String(text === undefined || text === null ? '' : text)",
  "        .replace(/&/g, '&amp;')",
  "        .replace(/</g, '&lt;')",
  "        .replace(/>/g, '&gt;')",
  "        .replace(/\"/g, '&quot;')",
  "        .replace(/'/g, '&#39;');",
  "\x7d",
  "",
  "function formatDuration(seconds) \x7b",
  "    if (!seconds || seconds <= 0) return 'N/A';",
  "    const whole = Math.floor(seconds);",
  "    const h = Math.floor(whole / 3600);",
  "    const m = Math.floor((whole % 3600) / 60);",
  "    const s = whole % 60;",
  "    if (h > 0) return `$\x7bh\x7dh $\x7bm\x7dm $\x7bs\x7ds`;",
  "    if (m > 0) return `$\x7bm\x7dm $\x7bs\x7ds`;",
  "    return `$\x7bs\x7ds`;",
  "\x7d",
  "",
  "function stateClass(state) \x7b",
  "    return String(state || '').toLowerCase().replace(/[^a-z0-9-]/g, '');",
  "\x7d",
  "",
  "// Tabs & theme",
  "function switchTab(tabId) \x7b",
  "    document.querySelectorAll('.tab-btn').forEach(b => b.classList.toggle('active', b.dataset.tab === tabId));",
  "    document.querySelectorAll('.tab-content').forEach(c => c.classList.toggle('active', c.id === tabId));",
  "\x7d",
  "",
  "function applyTheme(theme) \x7b",
  "    document.documentElement.setAttribute('data-theme', theme);",
  "    const btn = document.getElementById('themeToggle');",
  "    if (btn) btn.textContent = theme === 'dark' ? 'Light mode' : 'Dark mode';",
  "\x7d",
  "",
  "function toggleTheme() \x7b",
  "    const next = document.documentElement.getAttribute('data-theme') === 'dark' ? 'light' : 'dark';",
  "    localStorage.setItem('theme', next);",
  "    applyTheme(next);",
  "\x7d",
  "",
  "// Notifications & clipboard",
  "function showNotification(message, type = 'success') \x7b",
  "    const note = document.createElement('div');",
  "    note.className = 'notification ' + type;",
  "    note.textContent = message;",
  "    document.body.appendChild(note);",
  "    setTimeout(() => note.remove(), 2000);",
  "\x7d",
  "",
  "function copyToClipboard(text, message) \x7b",
  "    if (navigator.clipboard && window.isSecureContext) \x7b",
  "        navigator.clipboard.writeText(text).then(() => showNotification(message));",
  "        return;",
  "    \x7d",
  "    const area = document.createElement('textarea');",
  "    area.value = text;",
  "    document.body.appendChild(area);",
  "    area.select();",
  "    try \x7b",
  "        document.execCommand('copy');",
  "        showNotification(message);",
  "    \x7d catch (e) \x7b",
  "        showNotification('Copy failed', 'warning');",
  "    \x7d",
  "    area.remove();",
  "\x7d",
  "",
  "function copyWithElementFeedback(text, element) \x7b",
  "    copyToClipboard(text, 'Copied!');",
  "    element.classList.add('copied');",
  "    setTimeout(() => element.classList.remove('copied'), 1500);",
  "\x7d",
  "",
  "function copyTestName(btn) \x7b",
  "    event.stopPropagation();",
  "    copyToClipboard(btn.dataset.testName, 'Test name copied');",
  "\x7d",
  "",
  "function visibleRows() \x7b",
  "    return Array.from(document.querySelectorAll('#resultsTable tbody tr'))",
  "        .filter(row => row.style.display !== 'none');",
  "\x7d",
  "",
  "function copyAllTestNames() \x7b",
  "    const names = visibleRows().map(row => window.pivotData[Number(row.dataset.row)].test_name);",
  "    if (names.length === 0) \x7b",
  "        showNotification('No tests visible to copy', 'warning');",
  "        return;",
  "    \x7d",
  "    copyToClipboard(names.join('\\n'), `Copied $\x7bnames.length\x7d tests`);",
  "\x7d",
  ""]

end TestHistory.Page.Script.Shell
