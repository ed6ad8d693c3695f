/-!
# Script: details

The dialogs with the details of a test, a row and a run.
-/

namespace TestHistory.Page.Script.Modals

def lines : List String := [
  "// Modals",
  "function openModal(id, title, body) \x7b",
  "    document.getElementById(id + 'Title').textContent = title;",
  "    document.getElementById(id + 'Body').innerHTML = body;",
  "    document.getElementById(id).classList.add('open');",
  "\x7d",
  "",
  "function closeModal(id) \x7b",
  "    document.getElementById(id).classList.remove('open');",
  "\x7d",
  "",
  "function switchModalTab(button, tabId) \x7b",
  "    const modal = button.closest('.modal-body');",
  "    modal.querySelectorAll('.modal-tab').forEach(b => b.classList.toggle('active', b === button));",
  "    modal.querySelectorAll('.modal-tab-content').forEach(c => c.classList.toggle('active', c.id === tabId));",
  "\x7d",
  "",
  "function artifactsHtml(meta) \x7b",
  "    if (!meta) return '<p class=\"subtle\">No artifacts collected for this test.</p>';",
  "    const files = meta.file_contents || \x7b\x7d;",
  "    const names = Object.keys(files);",
  "    let html = `<dl class=\"kv\">",
  "        <dt>Directory</dt><dd><code>$\x7bescapeHtml(meta.relative_path)\x7d</code></dd>",
  "        <dt>Namespace</dt><dd>$\x7bescapeHtml(meta.namespace || '-')\x7d</dd>",
  "        <dt>Pods</dt><dd>$\x7bescapeHtml((meta.artifacts || \x7b\x7d).pod_count || 0)\x7d</dd>",
  "    </dl>`;",
  "    if (names.length === 0) return html + '<p class=\"subtle\">No artifact files.</p>';",
  "    const profiles = names.filter(name => isPprofFile(name) && files[name].type !== 'error');",
  "    for (const name of profiles) html += pprofSection(name, files[name].content);",
  "    for (const name of names.filter(name => !profiles.includes(name))) \x7b",
  "        const file = files[name];",
  "        let note = '';",
  "        if (file.type === 'log' && file.truncated) note = ` (last lines of $\x7bfile.total_lines\x7d)`;",
  "        if (file.type === 'error') \x7b",
  "            html += `<details class=\"file-block\" open><summary>$\x7bescapeHtml(name)\x7d - error</summary>",
  "                <div class=\"failure-box\">$\x7bescapeHtml(file.content)\x7d</div></details>`;",
  "            continue;",
  "        \x7d",
  "        html += `<details class=\"file-block\"><summary>$\x7bescapeHtml(name)\x7d <span class=\"subtle\">[$\x7bescapeHtml(file.type)\x7d]$\x7bnote\x7d</span></summary>",
  "            $\x7blogViewer(file.content, name)\x7d</details>`;",
  "    \x7d",
  "    return html;",
  "\x7d",
  "",
  "function showTestDetails(rowIdx, runIdx) \x7b",
  "    const row = window.pivotData[rowIdx];",
  "    const run = window.runsData[runIdx];",
  "    const cell = row.runs[run.run_id];",
  "    if (!cell) return;",
  "    const failure = cell.failure_message",
  "        ? `<h4>Failure</h4><div class=\"failure-box\">$\x7bansiToHtml(cell.failure_message)\x7d</div>`",
  "        : '';",
  "    const body = `",
  "        <div class=\"modal-tabs\">",
  "            <button class=\"modal-tab active\" onclick=\"switchModalTab(this, 'tab-summary')\">Summary</button>",
  "            <button class=\"modal-tab\" onclick=\"switchModalTab(this, 'tab-artifacts')\">Artifacts</button>",
  "        </div>",
  "        <div id=\"tab-summary\" class=\"modal-tab-content active\">",
  "            <dl class=\"kv\">",
  "                <dt>Run</dt><dd>$\x7bescapeHtml(run.run_id)\x7d ($\x7bescapeHtml(run.date)\x7d)</dd>",
  "                <dt>State</dt><dd><span class=\"badge $\x7bstateClass(cell.state)\x7d\">$\x7bescapeHtml(cell.state)\x7d</span></dd>",
  "                <dt>Runtime</dt><dd>$\x7bcell.runtime.toFixed(2)\x7ds</dd>",
  "                <dt>Labels</dt><dd>$\x7bescapeHtml((cell.labels || []).join(', ') || '-')\x7d</dd>",
  "                <dt>History</dt><dd>$\x7brow.pass_count\x7d passed, $\x7brow.fail_count\x7d failed of $\x7brow.total_runs\x7d</dd>",
  "            </dl>",
  "            $\x7bfailure\x7d",
  "        </div>",
  "        <div id=\"tab-artifacts\" class=\"modal-tab-content\">$\x7bartifactsHtml(cell.artifact_metadata)\x7d</div>`;",
  "    openModal('testModal', row.test_name, body);",
  "\x7d",
  "",
  "function showRowDetails(rowIdx) \x7b",
  "    const row = window.pivotData[rowIdx];",
  "    const history = window.runsData.map((run, idx) => \x7b",
  "        const cell = row.runs[run.run_id];",
  "        if (!cell) return '';",
  "        return `<span class=\"badge $\x7bstateClass(cell.state)\x7d\" style=\"cursor:pointer\" title=\"Run $\x7bescapeHtml(run.run_id)\x7d\"",
  "            onclick=\"showTestDetails($\x7browIdx\x7d, $\x7bidx\x7d)\">$\x7bescapeHtml(run.run_id)\x7d</span>`;",
  "    \x7d).join('');",
  "    const body = `",
  "        <dl class=\"kv\">",
  "            <dt>Flakiness</dt><dd>$\x7brow.flakiness_score.toFixed(0)\x7d% ($\x7bescapeHtml(row.flakiness_pattern)\x7d: $\x7bpatternDescription(row.flakiness_pattern)\x7d)</dd>",
  "            <dt>Pass rate</dt><dd>$\x7brow.pass_rate.toFixed(1)\x7d% ($\x7brow.pass_count\x7d/$\x7brow.total_runs\x7d)</dd>",
  "            <dt>Runtime</dt><dd>avg $\x7brow.avg_runtime.toFixed(1)\x7ds, min $\x7brow.min_runtime.toFixed(1)\x7ds, max $\x7brow.max_runtime.toFixed(1)\x7ds</dd>",
  "        </dl>",
  "        <h4>Run history (newest first)</h4>",
  "        <div class=\"history\">$\x7bhistory\x7d</div>`;",
  "    openModal('testModal', row.test_name, body);",
  "\x7d",
  "",
  "function showRunDetails(runIdx) \x7b",
  "    const run = window.runsData[runIdx];",
  "    const env = Object.entries(run.environment || \x7b\x7d)",
  "        .map(([k, v]) => `<dt>$\x7bescapeHtml(k)\x7d</dt><dd>$\x7bescapeHtml(typeof v === 'string' ? v : JSON.stringify(v))\x7d</dd>`)",
  "        .join('');",
  "    const body = `",
  "        <dl class=\"kv\">",
  "            <dt>Started</dt><dd>$\x7bescapeHtml(run.start_time)\x7d</dd>",
  "            <dt>Tests</dt><dd>$\x7brun.total_tests\x7d total, $\x7brun.passed_tests\x7d passed, $\x7brun.failed_tests\x7d failed</dd>",
  "            <dt>Runtime</dt><dd>$\x7bformatDuration(run.total_runtime)\x7d</dd>",
  "            <dt>Branch</dt><dd>$\x7bescapeHtml(run.git_branch || 'unknown')\x7d$\x7brun.git_dirty ? ' (dirty)' : ''\x7d</dd>",
  "            <dt>Commit</dt><dd><code>$\x7bescapeHtml(run.git_commit || 'unknown')\x7d</code></dd>",
  "            $\x7brun.description ? `<dt>Description</dt><dd>$\x7bescapeHtml(run.description)\x7d</dd>` : ''\x7d",
  "        </dl>",
  "        $\x7benv ? `<h4>Environment</h4><dl class=\"kv\">$\x7benv\x7d</dl>` : ''\x7d",
  "        <h4>Console output</h4>",
  "        $\x7brun.test_output_log ? logViewer(run.test_output_log, 'Log') : '<p class=\"subtle\">No console log captured.</p>'\x7d`;",
  "    openModal('runModal', `Run $\x7brun.run_id\x7d`, body);",
  "\x7d",
  ""]

end TestHistory.Page.Script.Modals
