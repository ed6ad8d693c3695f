/-!
# Script: profiles

Tables of heap and goroutine profiles.
-/

namespace TestHistory.Page.Script.Profiles

def lines : List String := [
  "// pprof text profiles",
  "const PPROF_FRAME = /^#\\s+0x[0-9a-f]+\\s+(.+?)(?:\\s+\\/|$)/;",
  "",
  "function isPprofFile(name) \x7b",
  "    return name.includes('pprof-heap') || name.includes('pprof-goroutine');",
  "\x7d",
  "",
  "function parsePprofHeap(content) \x7b",
  "    const lines = String(content || '').split('\\n');",
  "    const result = \x7b liveObjects: 0, liveSize: 0, totalObjects: 0, totalSize: 0, entries: [] \x7d;",
  "    const header = (lines[0] || '').match(/heap profile: (\\d+): (\\d+) \\[(\\d+): (\\d+)\\]/);",
  "    if (header) \x7b",
  "        [result.liveObjects, result.liveSize, result.totalObjects, result.totalSize] =",
  "            header.slice(1, 5).map(Number);",
  "    \x7d",
  "    let entry = null;",
  "    for (const line of lines.slice(1)) \x7b",
  "        const head = line.match(/^(\\d+): (\\d+) \\[(\\d+): (\\d+)\\] @/);",
  "        if (head) \x7b",
  "            if (entry) result.entries.push(entry);",
  "            const [liveObjects, liveSize, totalObjects, totalSize] = head.slice(1, 5).map(Number);",
  "            entry = \x7b liveObjects, liveSize, totalObjects, totalSize, stack: [] \x7d;",
  "            continue;",
  "        \x7d",
  "        const frame = line.match(PPROF_FRAME);",
  "        if (frame && entry) entry.stack.push(frame[1].trim());",
  "    \x7d",
  "    if (entry) result.entries.push(entry);",
  "    result.entries.sort((a, b) => b.liveSize - a.liveSize);",
  "    return result;",
  "\x7d",
  "",
  "function parsePprofGoroutine(content) \x7b",
  "    const lines = String(content || '').split('\\n');",
  "    const header = (lines[0] || '').match(/goroutine profile: total (\\d+)/);",
  "    const result = \x7b totalGoroutines: header ? Number(header[1]) : 0, stacks: [] \x7d;",
  "    let stack = null;",
  "    for (const line of lines.slice(1)) \x7b",
  "        const head = line.match(/^(\\d+) @/);",
  "        if (head) \x7b",
  "            if (stack) result.stacks.push(stack);",
  "            stack = \x7b count: Number(head[1]), frames: [] \x7d;",
  "            continue;",
  "        \x7d",
  "        const frame = line.match(PPROF_FRAME);",
  "        if (frame && stack) stack.frames.push(frame[1].trim());",
  "    \x7d",
  "    if (stack) result.stacks.push(stack);",
  "    result.stacks.sort((a, b) => b.count - a.count);",
  "    return result;",
  "\x7d",
  "",
  "function formatBytes(bytes) \x7b",
  "    if (!bytes || bytes <= 0) return '0 B';",
  "    const units = ['B', 'KB', 'MB', 'GB', 'TB'];",
  "    const i = Math.min(Math.floor(Math.log(bytes) / Math.log(1024)), units.length - 1);",
  "    return `$\x7bparseFloat((bytes / Math.pow(1024, i)).toFixed(2))\x7d $\x7bunits[i]\x7d`;",
  "\x7d",
  "",
  "function shortFrame(frame) \x7b",
  "    return frame.split('.').pop() || frame;",
  "\x7d",
  "",
  "function pprofHelp(text) \x7b",
  "    return `<button class=\"btn pprof-help-btn\" onclick=\"this.nextElementSibling.classList.toggle('visible')\">Help</button>",
  "        <div class=\"pprof-help-popup\">$\x7btext\x7d</div>`;",
  "\x7d",
  "",
  "function renderPprofHeap(parsed) \x7b",
  "    const top = parsed.entries.slice(0, 8);",
  "    const max = (top[0] && top[0].liveSize) || 1;",
  "    const bars = top.map(entry => \x7b",
  "        const name = entry.stack[0] || 'unknown';",
  "        const pct = (entry.liveSize / max * 100).toFixed(0);",
  "        return `<div class=\"pprof-bar-item\">",
  "            <div class=\"pprof-bar-label\" title=\"$\x7bescapeHtml(name)\x7d\">$\x7bescapeHtml(shortFrame(name))\x7d</div>",
  "            <div class=\"pprof-bar-container\">",
  "                <div class=\"pprof-bar\" style=\"width: $\x7bpct\x7d%;\"></div>",
  "                <span class=\"pprof-bar-value\">$\x7bformatBytes(entry.liveSize)\x7d</span>",
  "            </div>",
  "        </div>`;",
  "    \x7d).join('');",
  "    return `<div class=\"pprof-header\">",
  "            <div class=\"pprof-stats\">",
  "                <span><strong>$\x7bformatBytes(parsed.liveSize)\x7d</strong> live</span>",
  "                <span><strong>$\x7bparsed.liveObjects.toLocaleString()\x7d</strong> objects</span>",
  "                <span><strong>$\x7bformatBytes(parsed.totalSize)\x7d</strong> total allocated</span>",
  "            </div>",
  "            $\x7bpprofHelp('Live memory is allocated and still in use. Bars show the functions holding the most live memory. For deeper analysis run <code>go tool pprof</code> on the binary profile.')\x7d",
  "        </div>",
  "        <div class=\"pprof-bars\">$\x7bbars || '<p class=\"subtle\">No allocation samples.</p>'\x7d</div>`;",
  "\x7d",
  "",
  "function renderPprofGoroutine(parsed) \x7b",
  "    const stacks = parsed.stacks.slice(0, 12).map(stack => \x7b",
  "        const top = stack.frames[0] || 'unknown';",
  "        const frames = stack.frames.map(f => `<div class=\"pprof-frame\">$\x7bescapeHtml(f)\x7d</div>`).join('');",
  "        return `<div class=\"pprof-stack-item\">",
  "            <div class=\"pprof-stack-header\" onclick=\"this.parentElement.classList.toggle('expanded')\">",
  "                <span class=\"pprof-stack-count\">$\x7bstack.count\x7dx</span>",
  "                <span class=\"pprof-stack-name\" title=\"$\x7bescapeHtml(top)\x7d\">$\x7bescapeHtml(shortFrame(top))\x7d</span>",
  "                <span class=\"pprof-stack-toggle\">▶</span>",
  "            </div>",
  "            <div class=\"pprof-stack-frames\">$\x7bframes\x7d</div>",
  "        </div>`;",
  "    \x7d).join('');",
  "    return `<div class=\"pprof-header\">",
  "            <div class=\"pprof-stats\">",
  "                <span><strong>$\x7bparsed.totalGoroutines\x7d</strong> goroutines</span>",
  "                <span><strong>$\x7bparsed.stacks.length\x7d</strong> unique stacks</span>",
  "            </div>",
  "            $\x7bpprofHelp('Each row groups goroutines with the same stack. High counts can point at leaks or at goroutines blocked on channels and locks. Click a row for the full stack.')\x7d",
  "        </div>",
  "        <div class=\"pprof-stacks\">$\x7bstacks || '<p class=\"subtle\">No goroutine stacks.</p>'\x7d</div>`;",
  "\x7d",
  "",
  "function pprofSection(name, content) \x7b",
  "    const rawId = 'pprof-raw-' + (viewerCounter++);",
  "    const heap = name.includes('pprof-heap');",
  "    const summary = heap",
  "        ? renderPprofHeap(parsePprofHeap(content))",
  "        : renderPprofGoroutine(parsePprofGoroutine(content));",
  "    return `<div class=\"pprof-section\">",
  "            <div class=\"pprof-section-title\">$\x7bheap ? 'Heap Profile' : 'Goroutine Profile'\x7d",
  "                <span class=\"subtle\">($\x7bescapeHtml(name)\x7d)</span></div>",
  "            $\x7bsummary\x7d",
  "            <button class=\"btn pprof-raw-toggle\" onclick=\"togglePprofRaw(this, '$\x7brawId\x7d')\">Show raw output</button>",
  "            <div id=\"$\x7brawId\x7d\" class=\"pprof-raw-content\">$\x7blogViewer(content, name)\x7d</div>",
  "        </div>`;",
  "\x7d",
  "",
  "function togglePprofRaw(button, rawId) \x7b",
  "    const raw = document.getElementById(rawId);",
  "    raw.classList.toggle('visible');",
  "    button.textContent = raw.classList.contains('visible') ? 'Hide raw output' : 'Show raw output';",
  "\x7d",
  ""]

end TestHistory.Page.Script.Profiles
