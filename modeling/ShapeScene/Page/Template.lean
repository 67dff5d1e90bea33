/-!
# The page template

The page that shows a scene, with places for the title, the address of the graphics library, the
scene and the options. A place is a name between two pairs of braces.
-/

namespace ShapeScene.Page

/-- The lines of the template. -/
def templateLines : List String :=
  ["<!DOCTYPE html>",
   "<html lang=\"en\">",
   "<head>",
   "    <meta charset=\"UTF-8\">",
   "    <meta name=\"viewport\" content=\"width=device-width, initial-scale=1.0\">",
   "    <title>\x7b\x7btitle\x7d\x7d</title>",
   "    <style>",
   "        * \x7b margin: 0; padding: 0; \x7d",
   "        body \x7b font-family: Arial, sans-serif; background: #1a1a1a; overflow: hidden; \x7d",
   "        #canvas \x7b display: block; width: 100vw; height: 100vh; \x7d",
   "        #info \x7b position: absolute; top: 10px; left: 10px; color: #fff; \x7d",
   "    </style>",
   "</head>",
   "<body>",
   "    <div id=\"canvas\"></div>",
   "    <div id=\"info\">",
   "        <h2>\x7b\x7btitle\x7d\x7d</h2>",
   "        <p>Drag to rotate</p>",
   "    </div>",
   "",
   "    <script src=\"\x7b\x7bthree_js\x7d\x7d\"></script>",
   "    <script>",
   "        const sceneData = \x7b\x7bscene\x7d\x7d;",
   "        const options = \x7b\x7boptions\x7d\x7d;",
   "",
   "        const container = document.getElementById('canvas');",
   "        const renderer = new THREE.WebGLRenderer(\x7b antialias: true \x7d);",
   "        renderer.setSize(window.innerWidth, window.innerHeight);",
   "        renderer.shadowMap.enabled = true;",
   "        container.appendChild(renderer.domElement);",
   "",
   "        const scene = new THREE.Scene();",
   "        scene.background = new THREE.Color(...sceneData.background);",
   "        if (sceneData.fog.enabled) \x7b",
   "            scene.fog = new THREE.Fog(new THREE.Color(...sceneData.fog.color), sceneData.fog.near, sceneData.fog.far);",
   "        \x7d",
   "",
   "        const cam = sceneData.camera;",
   "        const camera = new THREE.PerspectiveCamera(cam.fov, window.innerWidth / window.innerHeight, 0.1, 1000);",
   "        camera.position.set(...cam.position);",
   "        camera.lookAt(new THREE.Vector3(...cam.lookAt));",
   "",
   "        function geometryFor(g) \x7b",
   "            switch (g.type) \x7b",
   "                case 'BoxGeometry': return new THREE.BoxGeometry(g.width, g.height, g.depth);",
   "                case 'SphereGeometry': return new THREE.SphereGeometry(g.radius, g.widthSegments, g.heightSegments);",
   "                case 'CylinderGeometry': return new THREE.CylinderGeometry(g.radiusTop, g.radiusBottom, g.height, g.radialSegments);",
   "                case 'ConeGeometry': return new THREE.ConeGeometry(g.radius, g.height, g.radialSegments);",
   "                case 'TorusGeometry': return new THREE.TorusGeometry(g.radius, g.tube, g.radialSegments, g.tubularSegments);",
   "                default: return new THREE.PlaneGeometry(g.width, g.height);",
   "            \x7d",
   "        \x7d",
   "",
   "        function materialFor(m) \x7b",
   "            return new THREE.MeshStandardMaterial(\x7b",
   "                color: m.color,",
   "                metalness: m.metalness,",
   "                roughness: m.roughness,",
   "                transparent: !!m.transparent,",
   "                opacity: m.opacity === undefined ? 1 : m.opacity,",
   "                side: m.side === 'double' ? THREE.DoubleSide : THREE.FrontSide,",
   "            \x7d);",
   "        \x7d",
   "",
   "        const animated = [];",
   "        for (const o of sceneData.objects) \x7b",
   "            const mesh = new THREE.Mesh(geometryFor(o.geometry), materialFor(o.material));",
   "            mesh.position.set(...o.position);",
   "            mesh.rotation.set(...o.rotation);",
   "            mesh.scale.set(...o.scale);",
   "            mesh.castShadow = o.castShadow;",
   "            mesh.receiveShadow = o.receiveShadow;",
   "            scene.add(mesh);",
   "            if (o.animation) \x7b",
   "                animated.push(\x7b mesh, anim: o.animation, origin: mesh.position.clone(), velocity: 0 \x7d);",
   "            \x7d",
   "        \x7d",
   "",
   "        for (const l of sceneData.lights) \x7b",
   "            const color = new THREE.Color(...l.color);",
   "            if (l.type === 'AmbientLight') \x7b",
   "                scene.add(new THREE.AmbientLight(color, l.intensity));",
   "                continue;",
   "            \x7d",
   "            const light = new THREE.DirectionalLight(color, l.intensity);",
   "            light.position.set(...l.position);",
   "            if (l.castShadow && l.shadow) \x7b",
   "                light.castShadow = true;",
   "                light.shadow.mapSize.set(l.shadow.mapSize, l.shadow.mapSize);",
   "                Object.assign(light.shadow.camera, l.shadow.camera);",
   "            \x7d",
   "            scene.add(light);",
   "        \x7d",
   "",
   "        let dragging = false, lastX = 0, yaw = 0;",
   "        if (options.interactive) \x7b",
   "            renderer.domElement.addEventListener('mousedown', e => \x7b dragging = true; lastX = e.clientX; \x7d);",
   "            window.addEventListener('mouseup', () => \x7b dragging = false; \x7d);",
   "            window.addEventListener('mousemove', e => \x7b",
   "                if (dragging) \x7b yaw += (e.clientX - lastX) * 0.005; lastX = e.clientX; \x7d",
   "            \x7d);",
   "        \x7d",
   "",
   "        function step(a, t) \x7b",
   "            const \x7b mesh, anim, origin \x7d = a;",
   "            switch (anim.type) \x7b",
   "                case 'rotation':",
   "                    mesh.rotation.y += anim.speed * (anim.direction || 1);",
   "                    break;",
   "                case 'scale': \x7b",
   "                    const s = 1 + anim.amplitude * Math.sin(t * anim.frequency);",
   "                    mesh.scale.set(s, s, s);",
   "                    break;",
   "                \x7d",
   "                case 'orbit':",
   "                    mesh.position.x = origin.x + anim.radius * Math.cos(t * anim.speed * 60);",
   "                    mesh.position.z = origin.z + anim.radius * Math.sin(t * anim.speed * 60);",
   "                    break;",
   "                case 'position':",
   "                    if (anim.damping !== undefined) \x7b",
   "                        a.velocity = (a.velocity + anim.speed) * anim.damping;",
   "                        mesh.position.y = Math.max(origin.y - 10, mesh.position.y + anim.direction * a.velocity);",
   "                    \x7d else \x7b",
   "                        mesh.position.y = origin.y + anim.amplitude * Math.abs(Math.sin(t * anim.frequency));",
   "                    \x7d",
   "                    break;",
   "            \x7d",
   "        \x7d",
   "",
   "        const clock = new THREE.Clock();",
   "        const radius = Math.hypot(cam.position[0], cam.position[2]);",
   "        function render() \x7b",
   "            requestAnimationFrame(render);",
   "            const t = clock.getElapsedTime();",
   "            if (options.animate) \x7b",
   "                animated.forEach(a => step(a, t));",
   "            \x7d",
   "            if (options.autoRotate && !dragging) \x7b",
   "                yaw += 0.002;",
   "            \x7d",
   "            camera.position.x = radius * Math.sin(yaw);",
   "            camera.position.z = radius * Math.cos(yaw);",
   "            camera.lookAt(new THREE.Vector3(...cam.lookAt));",
   "            renderer.render(scene, camera);",
   "        \x7d",
   "        render();",
   "",
   "        window.addEventListener('resize', () => \x7b",
   "            camera.aspect = window.innerWidth / window.innerHeight;",
   "            camera.updateProjectionMatrix();",
   "            renderer.setSize(window.innerWidth, window.innerHeight);",
   "        \x7d);",
   "    </script>",
   "</body>",
   "</html>"]

/-- The template, each line ended. -/
def template : String :=
  String.ofList (templateLines.flatMap fun line => line.toList ++ ['\n'])

end ShapeScene.Page
