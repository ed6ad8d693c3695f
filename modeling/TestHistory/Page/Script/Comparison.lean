/-!
# Script: charts and comparison

The charts of the dashboard, and two runs side by side.
-/

namespace TestHistory.Page.Script.Comparison

def lines : List String := [
  "// Charts",
  "function renderCharts() \x7b",
  "    if (typeof Chart === 'undefined') return;",
  "    const options = \x7b responsive: true, maintainAspectRatio: false \x7d;",
  "    new Chart(document.getElementById('passRateChart'), \x7b type: 'line', data: window.chartData.passRate, options \x7d);",
  "    new Chart(document.getElementById('durationChart'), \x7b type: 'line', data: window.chartData.duration, options \x7d);",
  "\x7d",
  "",
  "// Comparison",
  "function runIndex(runId) \x7b",
  "    return window.runsData.findIndex(r => r.run_id === runId);",
  "\x7d",
  "",
  "function runInfoHtml(run) \x7b",
  "    const rate = run.total_tests > 0 ? (run.passed_tests / run.total_tests * 100).toFixed(1) : '0.0';",
  "    return `",
  "        <div><strong>Run ID:</strong> $\x7bescapeHtml(run.run_id)\x7d</div>",
  "        <div><strong>Date:</strong> $\x7bescapeHtml(run.date)\x7d</div>",
  "        <div><strong>Total Tests:</strong> $\x7brun.total_tests\x7d</div>",
  "        <div><strong>Passed:</strong> <span class=\"rate-high\">$\x7brun.passed_tests\x7d</span></div>",
  "        <div><strong>Failed:</strong> <span class=\"rate-low\">$\x7brun.failed_tests\x7d</span></div>",
  "        <div><strong>Pass Rate:</strong> $\x7brate\x7d%</div>`;",
  "\x7d",
  "",
  "function updateRunInfo() \x7b",
  "    const a = document.getElementById('runASelect');",
  "    const b = document.getElementById('runBSelect');",
  "    if (!a || !b) return;",
  "    document.getElementById('runAInfo').innerHTML = runInfoHtml(window.runsData[Number(a.value)]);",
  "    document.getElementById('runBInfo').innerHTML = runInfoHtml(window.runsData[Number(b.value)]);",
  "\x7d",
  "",
  "function comparisonList(items, runIdx, empty, meta) \x7b",
  "    if (items.length === 0) return `<div class=\"empty-list\">$\x7bempty\x7d</div>`;",
  "    return items.map(item => `",
  "        <div class=\"comparison-item\" onclick=\"showTestDetails($\x7bitem.rowIdx\x7d, $\x7brunIdx\x7d)\">",
  "            <div>$\x7bescapeHtml(item.row.test_name)\x7d</div>",
  "            <div class=\"meta\">$\x7bmeta(item)\x7d</div>",
  "        </div>`).join('');",
  "\x7d",
  "",
  "function compareRuns() \x7b",
  "    const idxA = Number(document.getElementById('runASelect').value);",
  "    const idxB = Number(document.getElementById('runBSelect').value);",
  "    if (idxA === idxB) \x7b",
  "        showNotification('Please select different runs to compare', 'warning');",
  "        return;",
  "    \x7d",
  "    const runA = window.runsData[idxA].run_id;",
  "    const runB = window.runsData[idxB].run_id;",
  "",
  "    const newFailures = [], fixed = [], regressions = [];",
  "    let runtimeA = 0, runtimeB = 0, compared = 0;",
  "",
  "    window.pivotData.forEach((row, rowIdx) => \x7b",
  "        const a = row.runs[runA];",
  "        const b = row.runs[runB];",
  "        if (!a || !b) return;",
  "        compared++;",
  "        runtimeA += a.runtime || 0;",
  "        runtimeB += b.runtime || 0;",
  "        const item = \x7b row, rowIdx, runtimeA: a.runtime, runtimeB: b.runtime \x7d;",
  "        if (a.state === 'passed' && b.state === 'failed') newFailures.push(item);",
  "        if (a.state === 'failed' && b.state === 'passed') fixed.push(item);",
  "        if (row.is_flaky && b.state === 'failed' && row.fail_count > 1) regressions.push(item);",
  "    \x7d);",
  "",
  "    const diff = runtimeB - runtimeA;",
  "    const pct = runtimeA > 0 ? (diff / runtimeA * 100) : 0;",
  "    const sign = diff > 0 ? '+' : '';",
  "    const cls = diff > 0 ? 'trend-down' : diff < 0 ? 'trend-up' : 'trend-flat';",
  "",
  "    document.getElementById('comparisonSummary').style.display = 'grid';",
  "    document.getElementById('testsComparedCount').textContent = compared;",
  "    document.getElementById('newFailuresCount').textContent = newFailures.length;",
  "    document.getElementById('fixedTestsCount').textContent = fixed.length;",
  "    document.getElementById('regressionsCount').textContent = regressions.length;",
  "    document.getElementById('runtimeDiff').innerHTML =",
  "        `<span class=\"$\x7bcls\x7d\">$\x7bsign\x7d$\x7bdiff.toFixed(1)\x7ds ($\x7bsign\x7d$\x7bpct.toFixed(1)\x7d%)</span>`;",
  "",
  "    const runtimeMeta = item => `Runtime: $\x7bitem.runtimeA.toFixed(2)\x7ds → $\x7bitem.runtimeB.toFixed(2)\x7ds`;",
  "    document.getElementById('newFailuresList').innerHTML =",
  "        comparisonList(newFailures, idxB, 'No new failures', runtimeMeta);",
  "    document.getElementById('fixedTestsList').innerHTML =",
  "        comparisonList(fixed, idxB, 'No fixed tests', runtimeMeta);",
  "    document.getElementById('regressionsList').innerHTML =",
  "        comparisonList(regressions, idxB, 'No regressions detected',",
  "            item => `Flakiness: $\x7bitem.row.flakiness_score.toFixed(0)\x7d% | Fails: $\x7bitem.row.fail_count\x7d/$\x7bitem.row.total_runs\x7d`);",
  "\x7d",
  "",
  "document.addEventListener('keydown', e => \x7b",
  "    if (e.key === 'Escape') document.querySelectorAll('.modal.open').forEach(m => m.classList.remove('open'));",
  "\x7d);",
  "",
  "document.addEventListener('DOMContentLoaded', () => \x7b",
  "    const saved = localStorage.getItem('theme') ||",
  "        (window.matchMedia('(prefers-color-scheme: dark)').matches ? 'dark' : 'light');",
  "    applyTheme(saved);",
  "    renderCharts();",
  "    updateRunInfo();",
  "\x7d);"]

end TestHistory.Page.Script.Comparison
